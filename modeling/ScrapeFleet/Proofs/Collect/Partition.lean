/-
# ScrapeFleet.Proofs.Collect.Partition — each target is left to one shard

Every job ends with two rules, one that writes down a number for the address of a target and one that keeps
the targets with the number of the shard. A collector applies the job with its own shard in every text of it
(`ScrapeJob.mapTexts`), so of all collectors the one whose shard is the number of the address keeps the target
(`keeps_iff`). If the collectors agree on the address, this is exactly one of them (`one_shard_keeps`).

They do agree unless the rules before the two depend on the shard. The placeholder is filled in wherever it
stands, also in rules that a monitor brings. A monitor can write the address with it, and then every
collector counts another address, and it may be that none of them keeps the target (`no_shard_keeps_split`).
-/
import Mathlib.Data.List.Infix
import Mathlib.Logic.Function.Basic
import ScrapeFleet.Proofs.Collect.Shard
import ScrapeFleet.Proofs.Generate.Loadable
import ScrapeFleet.Proofs.Relabel.Filter

namespace ScrapeFleet.Collect

open Generate (Base shardLabel shardRules)
open Regex (Tables Accepts)
open Relabel (Rule TargetLabels)

/-! ## Applying rules -/

/-- A program that applies relabel rules: what a rule makes of the labels of a target, or nothing if it drops
the target. Two actions are known. The others may do with the labels what they like. -/
structure Relabeler (T : Tables) where
  step : Rule → TargetLabels → Option TargetLabels
  hash : String → Nat
  /-- A number of the joined labels, below the modulus, is written down in decimal. -/
  hashMod : ∀ (r : Rule) (t : TargetLabels) (n : Nat), r.action = .hashMod → r.modulus = some n → 0 < n →
    step r t = some (Function.update t r.target (toString (hash (r.subject t) % n)))
  /-- What the pattern accepts between anchors is kept as it is, and nothing else is. -/
  keep : ∀ (r : Rule) (t : TargetLabels), r.action = .keep →
    (r.Matches T t → step r t = some t) ∧ (¬ r.Matches T t → step r t = none)

namespace Relabeler

variable {T : Tables} (P : Relabeler T)

/-- The labels of a target behind some rules. -/
def run (rules : List Rule) (t : TargetLabels) : Option TargetLabels := rules.foldlM (fun t r => P.step r t) t

/-- The labels of a target behind some rules with the shard in them. -/
def labels (rules : List Rule) (shard : String) (t : TargetLabels) : Option TargetLabels :=
  P.run (rules.map (·.mapTexts (withShard shard))) t

/-- The collector of a shard keeps a target of the job. -/
def Keeps (job : ScrapeJob) (shard : String) (t : TargetLabels) : Prop :=
  (P.run (job.mapTexts (withShard shard)).relabel t).isSome = true

theorem run_append (first second : List Rule) (t : TargetLabels) :
    P.run (first ++ second) t = (P.run first t).bind (P.run second) := List.foldlM_append

theorem isSome_keep_iff {r : Rule} (hr : r.action = .keep) (t : TargetLabels) :
    (P.step r t).isSome = true ↔ r.Matches T t := by
  obtain ⟨hkept, hdropped⟩ := P.keep r t hr
  by_cases h : r.Matches T t
  · simp [hkept h, h]
  · simp [hdropped h, h]

end Relabeler

/-! ## The shard of a collector -/

theorem fills_number (i : Nat) : Yaml.Fills (withShard (toString i)) (toString i).toList := by
  have hdigit : ∀ d < 10, d.digitChar.isDigit = true := by decide
  have hdigits : ∀ x ∈ (toString i).toList, x.isDigit = true := by
    intro x hx
    rw [Text.toList_toString] at hx
    obtain ⟨d, hd, rfl⟩ := Text.exists_digit_of_mem_toDigits (by decide) i hx
    exact hdigit d hd
  have hne : toString i ≠ "" := fun h => Nat.toDigits_ne_nil (by rw [← Text.toList_toString i, h]; rfl)
  exact fills_withShard hne hdigits

theorem withShard_placeholder {shard : String} (h : Yaml.Fills (withShard shard) shard.toList) :
    withShard shard ScrapeJob.shardPlaceholder = shard := by
  have hpattern : ScrapeJob.shardPlaceholder.toList = '$' :: Yaml.placeholderTail ++ [] := by decide
  rw [← String.toList_inj, h.toList, hpattern, Yaml.filled, Text.substituteFrom_hit, Text.substituteFrom_nil,
    List.append_nil]

/-- The number of a shard is a pattern that accepts this number only. -/
theorem accepts_number {T : Tables} {i : Nat} {text : String} : Accepts T (toString i) text ↔ text = toString i := by
  have hplain : ∀ d < 10, Generate.patternMarks.contains d.digitChar = false := by decide
  -- digits are no marks of patterns
  refine Regex.accepts_plain fun c hc => ?_
  rw [Text.toList_toString] at hc
  obtain ⟨d, hd, rfl⟩ := Text.exists_digit_of_mem_toDigits (by decide) i hc
  exact hplain d hd

/-! ## The two rules -/

section

variable {T : Tables} (P : Relabeler T) {n : Nat}

/-- The rule that writes down the number of the address. -/
def numberRule (n : Nat) : Rule where
  sourceLabels := ["__address__"]
  targetLabel := some shardLabel
  modulus := some n
  action := .hashMod

/-- The two rules with a shard in them. -/
theorem shardRules_filled (hn : 2 ≤ n) {shard : String} (h : Yaml.Fills (withShard shard) shard.toList) :
    (shardRules n).map (·.mapTexts (withShard shard)) = [numberRule n, .keep [shardLabel] shard] := by
  have haddress : withShard shard "__address__" = "__address__" := h.eq_self (by decide)
  have hlabel : withShard shard shardLabel = shardLabel := h.eq_self (by decide)
  have hmany : ¬ n ≤ 1 := by omega
  simp [shardRules, numberRule, hmany, Rule.mapTexts, Rule.keep, haddress, hlabel, withShard_placeholder h]

/-- The two rules keep the targets whose address has the number of the shard. -/
theorem isSome_shardRules_iff (hn : 2 ≤ n) (i : Nat) (t : TargetLabels) :
    (P.labels (shardRules n) (toString i) t).isSome = true ↔ P.hash (t "__address__") % n = i := by
  obtain ⟨u, hu⟩ : ∃ u, u = Function.update t shardLabel (toString (P.hash (t "__address__") % n)) :=
    ⟨_, rfl⟩
  have hfirst : P.step (numberRule n) t = some u := by
    rw [hu]
    exact P.hashMod _ t n rfl rfl (by omega)
  have hmatch : (Rule.keep [shardLabel] (toString i)).Matches T u ↔ P.hash (t "__address__") % n = i := by
    have hsubject : (Rule.keep [shardLabel] (toString i)).subject u = u shardLabel := rfl
    rw [Rule.Matches, hsubject, hu, Function.update_self]
    exact accepts_number.trans Text.toString_inj
  rw [Relabeler.labels, shardRules_filled hn (fills_number i), Relabeler.run, List.foldlM_cons, hfirst]
  show ((P.step (.keep [shardLabel] (toString i)) u).bind some).isSome = true ↔ _
  rw [Option.bind_fun_some, P.isSome_keep_iff rfl, hmatch]

end

/-! ## Jobs -/

section

variable {T : Tables} (P : Relabeler T) {n : Nat} {rules : List Rule} {job : ScrapeJob}

/-- What a collector keeps is what the rules before the two leave with its number. -/
theorem keeps_iff (hn : 2 ≤ n) (hjob : job.relabel = rules ++ shardRules n) (i : Nat) (t : TargetLabels) :
    P.Keeps job (toString i) t ↔
      ∃ u, P.labels rules (toString i) t = some u ∧ P.hash (u "__address__") % n = i := by
  have hrun : P.run (job.mapTexts (withShard (toString i))).relabel t =
      (P.labels rules (toString i) t).bind (P.labels (shardRules n) (toString i)) := by
    show P.run (job.relabel.map _) t = _
    rw [hjob, List.map_append, P.run_append]
    rfl
  rw [Relabeler.Keeps, hrun]
  cases P.labels rules (toString i) t with
  | none => simp
  | some u =>
    rw [Option.bind_some, isSome_shardRules_iff P hn]
    simp

/-- If the collectors agree on the address, one of them keeps the target. -/
theorem existsUnique_keeps (hn : 2 ≤ n) (hjob : job.relabel = rules ++ shardRules n) {t : TargetLabels}
    {address : String}
    (hagree : ∀ i < n, ∃ u, P.labels rules (toString i) t = some u ∧ u "__address__" = address) :
    ∃! i, i < n ∧ P.Keeps job (toString i) t := by
  have hkeeps : ∀ i < n, P.Keeps job (toString i) t ↔ P.hash address % n = i := by
    intro i hi
    obtain ⟨u, hu, haddress⟩ := hagree i hi
    rw [keeps_iff P hn hjob, hu]
    simp [haddress]
  -- the number of the address is the number of one of the shards
  have hnumber : P.hash address % n < n := Nat.mod_lt _ (by omega)
  refine ⟨P.hash address % n, ⟨hnumber, (hkeeps _ hnumber).2 rfl⟩, ?_⟩
  rintro i ⟨hi, hkept⟩
  exact ((hkeeps i hi).1 hkept).symm

end

/-! ## Rules without a placeholder -/

/-- The placeholder stands in no text of a rule. -/
def Unsharded (r : Rule) : Prop :=
  ∀ s ∈ r.sourceLabels ++ r.separator.toList ++ r.targetLabel.toList ++ r.regex.toList ++
    r.replacement.toList, ¬ ScrapeJob.shardPlaceholder.toList <:+: s.toList

theorem withShard_of_not_infix {shard s : String} (h : ¬ ScrapeJob.shardPlaceholder.toList <:+: s.toList) :
    withShard shard s = s := by
  have hpattern : ScrapeJob.shardPlaceholder.toList = '$' :: Yaml.placeholderTail := by decide
  rw [hpattern] at h
  simp only [withShard, Text.substitute, hpattern]
  rw [Text.substituteFrom_of_not_infix h, String.ofList_toList]

/-- Every collector applies such a rule as it is. -/
theorem Unsharded.mapTexts {r : Rule} (h : Unsharded r) (shard : String) :
    r.mapTexts (withShard shard) = r := by
  have hsame : ∀ s ∈ r.sourceLabels ++ r.separator.toList ++ r.targetLabel.toList ++ r.regex.toList ++
      r.replacement.toList, withShard shard s = s := fun s hs => withShard_of_not_infix (h s hs)
  simp only [List.forall_mem_append, Option.mem_toList] at hsame
  obtain ⟨⟨⟨⟨hsources, hseparator⟩, htarget⟩, hregex⟩, hreplacement⟩ := hsame
  have hoption : ∀ o : Option String, (∀ s ∈ o, withShard shard s = s) → o.map (withShard shard) = o := by
    intro o ho
    cases o with
    | none => rfl
    | some s => exact congrArg some (ho s rfl)
  have hlist : r.sourceLabels.map (withShard shard) = r.sourceLabels :=
    (List.map_congr_left hsources).trans (List.map_id _)
  simp only [Rule.mapTexts, hlist, hoption _ hseparator, hoption _ htarget, hoption _ hregex,
    hoption _ hreplacement]

theorem labels_of_unsharded {T : Tables} (P : Relabeler T) {rules : List Rule}
    (h : ∀ r ∈ rules, Unsharded r) (shard : String) (t : TargetLabels) :
    P.labels rules shard t = P.run rules t := by
  have hsame : rules.map (·.mapTexts (withShard shard)) = rules :=
    (List.map_congr_left fun r hr => (h r hr).mapTexts shard).trans (List.map_id _)
  rw [Relabeler.labels, hsame]

/-! ## The collectors of a job -/

/-- **The shards of a job.** A job has the rules of its part and behind them, if there are two shards or more,
the two rules for shards. Without these every collector keeps what the rules leave. With them the collector of
a shard keeps the targets that its rules leave with the shard as the number of their address, so exactly one of
the collectors keeps a target for which they agree on the address; and they agree on everything that is left by
rules without a placeholder. -/
theorem one_shard_keeps {settings : Settings} {m : Monitor} {result : List ScrapeJob × List Generate.Warning}
    {job : ScrapeJob} (hyields : (Generate.jobs settings m).Yields result) (hjob : job ∈ result.1)
    {T : Tables} (P : Relabeler T) :
    ∃ base, Base settings m job.name base ∧ job.relabel = base.relabel ++ shardRules settings.shards ∧
      (settings.shards ≤ 1 → job.relabel = base.relabel ∧
        ∀ shard t, P.Keeps job shard t ↔ ∃ u, P.labels base.relabel shard t = some u) ∧
      (2 ≤ settings.shards → ∀ t,
        (∀ i < settings.shards, P.Keeps job (toString i) t ↔
          ∃ u, P.labels base.relabel (toString i) t = some u ∧
            P.hash (u "__address__") % settings.shards = i) ∧
        (∀ address, (∀ i < settings.shards,
            ∃ u, P.labels base.relabel (toString i) t = some u ∧ u "__address__" = address) →
          ∃! i, i < settings.shards ∧ P.Keeps job (toString i) t) ∧
        ((∀ rule ∈ base.relabel, Unsharded rule) → ∀ u, P.run base.relabel t = some u →
          ∃! i, i < settings.shards ∧ P.Keeps job (toString i) t)) := by
  obtain ⟨base, hbase, hcompletes⟩ := Generate.base_of_job hyields hjob
  refine ⟨base, hbase, hcompletes.relabel, fun hone => ?_, fun hmany t => ⟨fun i _ => ?_, fun address => ?_, ?_⟩⟩
  · have hnone : shardRules settings.shards = [] := if_pos hone
    have hsame : job.relabel = base.relabel := by rw [hcompletes.relabel, hnone, List.append_nil]
    refine ⟨hsame, fun shard t => ?_⟩
    rw [← hsame]
    exact Option.isSome_iff_exists
  · exact keeps_iff P hmany hcompletes.relabel i t
  · exact existsUnique_keeps P hmany hcompletes.relabel
  · intro hplain u hu
    refine existsUnique_keeps P hmany hcompletes.relabel fun i _ => ⟨u, ?_, rfl⟩
    rw [labels_of_unsharded P hplain, hu]

/-! ## An address with the shard in it -/

/-- A scrape config with one target, to which it gives an address. -/
def addressed (address : String) : Monitor where
  metadata := { name := some "web", namespaceName := some "shop" }
  spec := .scrape {
    static := [{ targets := ["web"] }]
    relabelings := [{ targetLabel := some "__address__", replacement := some address }] }

/-- The lower half of the MD5 digest, for two addresses. -/
def addressHash (address : String) : Nat :=
  if address = "host-0" then 4235877270355454365
  else if address = "host-1" then 9409121072670276162
  else 0

open Classical in
/-- A scraper as far as rules write, count and keep: what is written refers to no group of a pattern. -/
noncomputable def scraper (T : Tables) : Relabeler T where
  step r t :=
    match r.action with
    | .keep => if r.Matches T t then some t else none
    | .drop => if r.Matches T t then none else some t
    | .hashMod => some (Function.update t r.target (toString (addressHash (r.subject t) % r.modulus.getD 0)))
    | .replace =>
      if r.regex = none ∨ r.Matches T t then
        some (Function.update t r.target (r.replacement.getD Rule.defaultReplacement))
      else some t
    | _ => some t
  hash := addressHash
  hashMod r t n hr hn _ := by simp only [hr, hn, Option.getD_some]
  keep r t hr := by
    simp only [hr]
    exact ⟨fun h => if_pos h, fun h => if_neg h⟩

/-- The rule that writes the address. -/
def writeAddress (address : String) : Rule where
  targetLabel := some "__address__"
  replacement := some address

/-- What a collector makes of the address. -/
theorem labels_writeAddress {T : Tables} (address shard : String) (t : TargetLabels) :
    (scraper T).labels [writeAddress address] shard t =
      some (Function.update t "__address__" (withShard shard address)) := by
  have htarget : withShard shard "__address__" = "__address__" := withShard_of_not_infix (by decide)
  have hfilled : (writeAddress address).mapTexts (withShard shard) = writeAddress (withShard shard address) := by
    simp only [writeAddress, Rule.mapTexts, Option.map_some, htarget]
    rfl
  have hstep : (scraper T).step (writeAddress (withShard shard address)) t =
      some (Function.update t "__address__" (withShard shard address)) := by
    simp [scraper, writeAddress, Rule.target]
  rw [Relabeler.labels, List.map_singleton, hfilled, Relabeler.run, List.foldlM_cons, hstep]
  rfl

theorem exists_addressed_job (address : String) (h : address ∈ ["host-0", "host-$(SHARD)"]) :
    ∃ result job, (Generate.jobs { shards := 2 } (addressed address)).Yields result ∧ job ∈ result.1 ∧
      job.relabel = [writeAddress address] ++ shardRules 2 := by
  have hrules : ∀ a ∈ ["host-0", "host-$(SHARD)"],
      ((Generate.jobs { shards := 2 } (addressed a)).answered Generate.noSecrets).1.map (·.relabel) =
        [[writeAddress a] ++ shardRules 2] := by decide +kernel
  have hyields := Credential.Lookup.yields_answered Generate.noSecrets
    (Generate.jobs { shards := 2 } (addressed address))
  obtain ⟨job, hjob, hrelabel⟩ := List.mem_map.1 (hrules address h ▸ List.mem_singleton_self _)
  exact ⟨_, job, hyields, hjob, hrelabel⟩

theorem one_shard_keeps_fixed :
    ∃ result job, (Generate.jobs { shards := 2 } (addressed "host-0")).Yields result ∧ job ∈ result.1 ∧
      ∀ t, ∃! i, i < 2 ∧ (scraper Tables.plain).Keeps job (toString i) t := by
  obtain ⟨result, job, hyields, hjob, hrelabel⟩ := exists_addressed_job "host-0" (by simp)
  refine ⟨result, job, hyields, hjob, fun t => ?_⟩
  obtain ⟨base, _, hrules, _, hmany⟩ := one_shard_keeps hyields hjob (scraper Tables.plain)
  have hbase : base.relabel = [writeAddress "host-0"] := List.append_cancel_right (hrules.symm.trans hrelabel)
  have hplain : ∀ rule ∈ base.relabel, Unsharded rule := by
    rw [hbase, List.forall_mem_singleton]
    unfold Unsharded
    decide
  have hleft := labels_writeAddress (T := Tables.plain) "host-0" "0" t
  rw [← hbase, labels_of_unsharded _ hplain] at hleft
  exact (hmany (by decide) t).2.2 hplain _ hleft

/-- The scraper of the second shard counts another address than that of the first. Both have the target behind
the rules of the monitor, and neither keeps it. -/
theorem no_shard_keeps_split :
    ∃ result job, (Generate.jobs { shards := 2 } (addressed "host-$(SHARD)")).Yields result ∧
      job ∈ result.1 ∧ job.relabel = [writeAddress "host-$(SHARD)"] ++ shardRules 2 ∧ ∀ t,
        (∀ i < 2, ∃ u, (scraper Tables.plain).labels [writeAddress "host-$(SHARD)"] (toString i) t = some u) ∧
        ¬ ∃ i, i < 2 ∧ (scraper Tables.plain).Keeps job (toString i) t := by
  obtain ⟨result, job, hyields, hjob, hrelabel⟩ :=
    exists_addressed_job "host-$(SHARD)" (by simp)
  refine ⟨result, job, hyields, hjob, hrelabel, fun t => ⟨fun i _ => ⟨_, labels_writeAddress _ _ t⟩, ?_⟩⟩
  rintro ⟨i, hi, hkept⟩
  obtain ⟨u, hu, hnumber⟩ := (keeps_iff _ (by decide) hrelabel i t).1 hkept
  rw [labels_writeAddress] at hu
  obtain rfl := Option.some.inj hu
  rw [Function.update_self] at hnumber
  have hzero : withShard "0" "host-$(SHARD)" = "host-0" := by decide +kernel
  have hone : withShard "1" "host-$(SHARD)" = "host-1" := by decide +kernel
  -- for each of the two the address that it writes has the number of the other
  obtain rfl | rfl : i = 0 ∨ i = 1 := by omega
  · have hhash : addressHash (withShard (toString 0) "host-$(SHARD)") % 2 = 1 := by
      rw [show toString 0 = "0" from rfl, hzero]
      decide
    exact absurd (hhash.symm.trans hnumber) (by decide)
  · have hhash : addressHash (withShard (toString 1) "host-$(SHARD)") % 2 = 0 := by
      rw [show toString 1 = "1" from rfl, hone]
      decide
    exact absurd (hhash.symm.trans hnumber) (by decide)

end ScrapeFleet.Collect
