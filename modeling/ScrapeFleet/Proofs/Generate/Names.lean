/-
# ScrapeFleet.Proofs.Generate.Names — what the name of a job tells of its monitor

The name of a job is the job key of its monitor, with a number behind it where a monitor has several parts.
The key is the prefix of the kind, the namespace and the name, with slashes between them. What stands before
the first slash is the kind, and it says whether there is a number; what stands after the last slash is the
number. So the key is read off the name, and jobs of monitors with different keys have different names
(`jobKey_unique`), whatever the namespaces and names are. The key itself tells the namespace from the name
only where there is no slash in the namespace (`key_eq_of_jobKey`).
-/
import ScrapeFleet.Proofs.Generate.Parts
import ScrapeFleet.Proofs.Text.Bytes
import ScrapeFleet.Proofs.Text.Digits

namespace ScrapeFleet.Generate

/-! ## Slashes -/

theorem slash_notMem_toString (i : Nat) : '/' ∉ (toString i).toList := by
  intro h
  rw [Text.toList_toString] at h
  obtain ⟨d, hd, hslash⟩ := Text.exists_digit_of_mem_toDigits (by omega) i h
  have hdigit : ∀ d < 10, '/' ≠ d.digitChar := by decide
  exact hdigit d hd hslash

/-! ## Keys -/

theorem slash_notMem_jobPrefix (k : Kind) : '/' ∉ k.jobPrefix.toList := by
  cases k <;> simp [Kind.jobPrefix]

theorem jobPrefix_inj {k k' : Kind} (h : k.jobPrefix = k'.jobPrefix) : k = k' := by
  cases k <;> cases k' <;> simp [Kind.jobPrefix] at h ⊢

theorem toList_jobKey (m : Monitor) :
    m.jobKey.toList =
      m.kind.jobPrefix.toList ++ '/' :: (m.namespaceText.toList ++ '/' :: m.metadata.displayName.toList) := by
  simp [Monitor.jobKey]

/-- What starts with the prefixes of two kinds, and a slash, starts with one. -/
theorem kind_unique {k k' : Kind} {rest rest' : List Char}
    (h : k.jobPrefix.toList ++ '/' :: rest = k'.jobPrefix.toList ++ '/' :: rest') :
    k = k' ∧ rest = rest' := by
  obtain ⟨hstem, hrest⟩ :=
    Text.first_mark_unique (slash_notMem_jobPrefix k) (slash_notMem_jobPrefix k') h
  exact ⟨jobPrefix_inj (String.toList_inj.1 hstem), hrest⟩

/-- The key of a monitor tells its kind. -/
theorem kind_eq_of_jobKey {m m' : Monitor} (h : m.jobKey = m'.jobKey) : m.kind = m'.kind := by
  have htexts := congrArg String.toList h
  rw [toList_jobKey, toList_jobKey] at htexts
  exact (kind_unique htexts).1

/-- Without slashes in namespaces, it tells the namespace and the name. -/
theorem key_eq_of_jobKey {m m' : Monitor} (hns : '/' ∉ m.namespaceText.toList)
    (hns' : '/' ∉ m'.namespaceText.toList) (h : m.jobKey = m'.jobKey) :
    m.metadata.key = m'.metadata.key := by
  have htexts := congrArg String.toList h
  rw [toList_jobKey, toList_jobKey] at htexts
  obtain ⟨hns, hname⟩ := Text.first_mark_unique hns hns' (kind_unique htexts).2
  exact Prod.ext (String.toList_inj.1 hns) (String.toList_inj.1 hname)

/-! ## Names -/

/-- Monitors of the kind have parts that are numbered. -/
def IsNumbered : Kind → Prop
  | .serviceMonitor | .podMonitor => True
  | _ => False

/-- The names of the parts of a monitor. -/
def partNames (settings : Settings) (m : Monitor) : List String := (parts settings m).map (·.1)

variable {settings : Settings} {m m' : Monitor} {name : String}

/-- The name of a part is the key of the monitor, and a number where parts are numbered. -/
theorem of_mem_partNames (h : name ∈ partNames settings m) :
    IsNumbered m.kind ∧ (∃ i : Nat, name = m.jobKey ++ "/" ++ toString i) ∨
      ¬ IsNumbered m.kind ∧ name = m.jobKey := by
  obtain ⟨⟨_, part⟩, hpart, rfl⟩ := List.mem_map.1 h
  unfold parts at hpart
  unfold Monitor.kind
  split at hpart
  · rename_i spec hspec
    obtain ⟨i, hi, heq⟩ := List.mem_mapIdx.1 hpart
    rw [hspec]
    exact .inl ⟨trivial, i, (Prod.mk.inj heq).1.symm⟩
  · rename_i spec hspec
    obtain ⟨i, hi, heq⟩ := List.mem_mapIdx.1 hpart
    rw [hspec]
    exact .inl ⟨trivial, i, (Prod.mk.inj heq).1.symm⟩
  · rename_i spec hspec
    rw [hspec]
    exact .inr ⟨id, (Prod.mk.inj (List.mem_singleton.1 hpart)).1⟩
  · rename_i spec hspec
    rw [hspec]
    exact .inr ⟨id, (Prod.mk.inj (List.mem_singleton.1 hpart)).1⟩

/-- The kind of the monitor stands before the first slash. -/
theorem exists_prefix (h : name ∈ partNames settings m) :
    ∃ rest, name.toList = m.kind.jobPrefix.toList ++ '/' :: rest := by
  rcases of_mem_partNames h with ⟨_, i, rfl⟩ | ⟨_, rfl⟩
  · exact ⟨m.namespaceText.toList ++ '/' :: m.metadata.displayName.toList ++ '/' :: (toString i).toList,
      by simp [toList_jobKey]⟩
  · exact ⟨_, toList_jobKey m⟩

/-- A name belongs to monitors of one key only. -/
theorem jobKey_unique (h : name ∈ partNames settings m) (h' : name ∈ partNames settings m') :
    m.jobKey = m'.jobKey := by
  obtain ⟨rest, hrest⟩ := exists_prefix h
  obtain ⟨rest', hrest'⟩ := exists_prefix h'
  have hkind : m.kind = m'.kind := (kind_unique (hrest.symm.trans hrest')).1
  -- the kind decides for both alike whether a number stands behind the key
  rcases of_mem_partNames h with ⟨hnumbered, i, hi⟩ | ⟨hsingle, hname⟩
  · obtain ⟨_, i', hi'⟩ := (of_mem_partNames h').resolve_right fun hn => hn.1 (hkind ▸ hnumbered)
    have htexts := congrArg String.toList (hi.symm.trans hi')
    simp only [String.toList_append] at htexts
    have hkeys := Text.last_mark_unique (slash_notMem_toString i) (slash_notMem_toString i')
      (by simpa using htexts)
    exact String.toList_inj.1 hkeys.1
  · obtain ⟨_, hname'⟩ := (of_mem_partNames h').resolve_left fun hn => hsingle (hkind ▸ hn.1)
    exact hname.symm.trans hname'

theorem numbered_inj {key : String} {i j : Nat} (h : key ++ "/" ++ toString i = key ++ "/" ++ toString j) :
    i = j := by
  have htexts := congrArg String.toList h
  simp only [String.toList_append, List.append_cancel_left_eq] at htexts
  exact Text.toString_inj.1 (String.toList_inj.1 htexts)

theorem nodup_numbered {α β : Type} (key : String) (make : String → α → β) (as : List α) :
    ((as.mapIdx fun i a =>
      let name := key ++ "/" ++ toString i
      (name, make name a)).map (·.1)).Nodup := by
  rw [List.Nodup, List.pairwise_map, List.pairwise_iff_getElem]
  intro i j hi hj hij heq
  simp only [List.getElem_mapIdx] at heq
  exact Nat.ne_of_lt hij (numbered_inj heq)

/-- The parts of a monitor have different names. -/
theorem nodup_partNames (settings : Settings) (m : Monitor) : (partNames settings m).Nodup := by
  unfold partNames parts
  split
  · rename_i spec _
    exact nodup_numbered m.jobKey (fun name e => serviceEndpoint settings m.namespaceText name spec e) _
  · rename_i spec _
    exact nodup_numbered m.jobKey
      (fun name e => podEndpoint settings m.namespaceText m.metadata.displayName name spec e) _
  · exact List.pairwise_singleton _ _
  · exact List.pairwise_singleton _ _

end ScrapeFleet.Generate
