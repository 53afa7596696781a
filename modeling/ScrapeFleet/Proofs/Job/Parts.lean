/-
# ScrapeFleet.Proofs.Job.Parts — what written jobs are built of

How deep a written map of jobs is nested, and that a client is written without numbers.
-/
import ScrapeFleet.Job.Basic
import ScrapeFleet.Proofs.Document.Parts

namespace ScrapeFleet

open Value (forall_field forall_optional forall_unlessEmpty forall_entries forall_itemLeaves
  forall_fieldLeaves depth_text_le depth_bool_le depth_int_le depth_list_le depth_record_le)

namespace Job

/-- A client is written without numbers. -/
theorem HttpClient.int_not_mem (c : HttpClient) :
    ∀ l ∈ Value.fieldLeaves c.writeFields, ∀ n, l ≠ .int n := by
  simp only [writeFields, BasicAuth.write, Authorization.write, OAuth2.write, TlsConfig.write, Value.leaves,
    forall_fieldLeaves, forall_itemLeaves, List.forall_mem_append, List.forall_mem_map, forall_field,
    forall_optional, forall_unlessEmpty, forall_entries, List.forall_mem_singleton]
  simp

/-! ## How deep a written job is nested -/

theorem HttpClient.depth_writeFields (c : HttpClient) : ∀ f ∈ c.writeFields, f.2.depth ≤ 2 := by
  simp only [writeFields, BasicAuth.write, Authorization.write, OAuth2.write, TlsConfig.write,
    List.forall_mem_append, List.forall_mem_map, forall_field, forall_optional, forall_unlessEmpty,
    forall_entries, depth_record_le, depth_list_le, depth_text_le, depth_bool_le]
  simp

theorem KubernetesDiscovery.depth_write (k : KubernetesDiscovery) : k.write.depth ≤ 3 := by
  simp only [write, NamespaceDiscovery.write, List.forall_mem_append, List.forall_mem_map, forall_field,
    forall_optional, forall_unlessEmpty, depth_record_le, depth_list_le, depth_text_le, depth_bool_le]
  simp

theorem StaticTargets.depth_write (s : StaticTargets) : s.write.depth ≤ 2 := by
  simp only [write, Value.texts, List.forall_mem_append, List.forall_mem_map, forall_field, forall_entries,
    depth_record_le, depth_list_le, depth_text_le]
  simp

theorem HttpDiscovery.depth_write (e : HttpDiscovery) : e.write.depth ≤ 3 := by
  simp only [write, writeDuration, List.forall_mem_append, forall_field, forall_optional, depth_record_le,
    depth_text_le]
  exact ⟨⟨trivial, fun _ _ => trivial⟩, e.client.depth_writeFields⟩

end Job

theorem Relabel.Rule.depth_write (r : Relabel.Rule) : r.write.depth ≤ 2 := by
  simp only [write, Value.nat, List.forall_mem_append, List.forall_mem_map, forall_field, forall_optional,
    forall_unlessEmpty, depth_record_le, depth_list_le, depth_text_le, depth_int_le]
  simp

open Job

theorem ScrapeJob.depth_write (j : ScrapeJob) : j.write.depth ≤ 5 := by
  have hclient : ∀ f ∈ j.client.writeFields, f.2.depth ≤ 4 := fun f hf =>
    Nat.le_trans (j.client.depth_writeFields f hf) (by decide)
  have hkubernetes : ∀ k : KubernetesDiscovery, k.write.depth ≤ 3 := fun k => k.depth_write
  have hstatic : ∀ s : StaticTargets, s.write.depth ≤ 3 := fun s => Nat.le_succ_of_le s.depth_write
  have hhttp : ∀ e : HttpDiscovery, e.write.depth ≤ 3 := fun e => e.depth_write
  have hrule : ∀ r : Relabel.Rule, r.write.depth ≤ 3 := fun r => Nat.le_succ_of_le r.depth_write
  simp only [write, Value.texts, Value.nat, writeDuration, List.forall_mem_append, List.forall_mem_map,
    forall_field, forall_optional, forall_unlessEmpty, forall_entries, depth_record_le, depth_list_le,
    depth_text_le, depth_bool_le, depth_int_le, hkubernetes, hstatic, hhttp, hrule, implies_true, and_true,
    true_and]
  exact hclient

/-- A written map of jobs is nested less deep than a reader goes. -/
theorem depth_writeJobMap (jobs : Dict String ScrapeJob) : (writeJobMap jobs).depth ≤ 6 := by
  rw [writeJobMap, depth_record_le]
  intro f hf
  obtain ⟨e, -, rfl⟩ := List.mem_map.1 hf
  exact e.2.depth_write

end ScrapeFleet
