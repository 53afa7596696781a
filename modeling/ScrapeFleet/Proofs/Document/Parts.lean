/-
# ScrapeFleet.Proofs.Document.Parts — the parts of a value

The keys and the leaves that stand anywhere in a value, and how deep it is nested. What a document has to
satisfy to be read back is said of these.
-/
import ScrapeFleet.Document.Value

namespace ScrapeFleet.Value

mutual

/-- The keys of all records in a value. -/
def keys : Value → List String
  | .bool _ | .int _ | .text _ => []
  | .list vs => itemKeys vs
  | .record fs => fieldKeys fs

/-- The keys of all records in the items of a list. -/
def itemKeys : List Value → List String
  | [] => []
  | v :: vs => v.keys ++ itemKeys vs

/-- The keys of a record and of all records in its values. -/
def fieldKeys : List (String × Value) → List String
  | [] => []
  | (k, v) :: fs => k :: (v.keys ++ fieldKeys fs)

end

mutual

/-- The leaves of a value, among them the texts that are keys. -/
def leaves : Value → List Value
  | .bool b => [.bool b]
  | .int n => [.int n]
  | .text s => [.text s]
  | .list vs => itemLeaves vs
  | .record fs => fieldLeaves fs

/-- The leaves of the items of a list. -/
def itemLeaves : List Value → List Value
  | [] => []
  | v :: vs => v.leaves ++ itemLeaves vs

/-- The keys of a record and the leaves of its values. -/
def fieldLeaves : List (String × Value) → List Value
  | [] => []
  | (k, v) :: fs => .text k :: (v.leaves ++ fieldLeaves fs)

end

mutual

/-- How deep lists and records are nested in a value. -/
def depth : Value → Nat
  | .bool _ | .int _ | .text _ => 0
  | .list vs => itemDepth vs + 1
  | .record fs => fieldDepth fs + 1

/-- The depth of the deepest item of a list. -/
def itemDepth : List Value → Nat
  | [] => 0
  | v :: vs => max v.depth (itemDepth vs)

/-- The depth of the deepest value of a record. -/
def fieldDepth : List (String × Value) → Nat
  | [] => 0
  | (_, v) :: fs => max v.depth (fieldDepth fs)

end

/-! ## What holds of all parts -/

variable {p : Value → Prop} {vs : List Value} {fs : List (String × Value)} {d : Nat}

theorem forall_itemLeaves : (∀ l ∈ itemLeaves vs, p l) ↔ ∀ v ∈ vs, ∀ l ∈ v.leaves, p l := by
  induction vs with
  | nil => simp [itemLeaves]
  | cons v vs ih => simp only [itemLeaves, List.forall_mem_append, List.forall_mem_cons, ih]

theorem forall_fieldLeaves :
    (∀ l ∈ fieldLeaves fs, p l) ↔ ∀ f ∈ fs, p (.text f.1) ∧ ∀ l ∈ f.2.leaves, p l := by
  induction fs with
  | nil => simp [fieldLeaves]
  | cons f fs ih =>
    obtain ⟨k, v⟩ := f
    simp only [fieldLeaves, List.forall_mem_cons, List.forall_mem_append, ih, and_assoc]

theorem mem_fieldLeaves {f : String × Value} {l : Value} (hf : f ∈ fs) (hl : l ∈ f.2.leaves) :
    l ∈ fieldLeaves fs :=
  (forall_fieldLeaves.1 (fun _ h => h) f hf).2 l hl

theorem depth_text_le (s : String) : (text s).depth ≤ d := Nat.zero_le d

theorem depth_bool_le (b : Bool) : (bool b).depth ≤ d := Nat.zero_le d

theorem depth_int_le (n : Int) : (int n).depth ≤ d := Nat.zero_le d

theorem depth_list_le : (list vs).depth ≤ d + 1 ↔ ∀ v ∈ vs, v.depth ≤ d := by
  rw [depth, Nat.add_le_add_iff_right]
  induction vs with
  | nil => simp [itemDepth]
  | cons v vs ih => simp only [itemDepth, Nat.max_le, List.forall_mem_cons, ih]

theorem depth_record_le : (record fs).depth ≤ d + 1 ↔ ∀ f ∈ fs, f.2.depth ≤ d := by
  rw [depth, Nat.add_le_add_iff_right]
  induction fs with
  | nil => simp [fieldDepth]
  | cons f fs ih =>
    obtain ⟨k, v⟩ := f
    simp only [fieldDepth, Nat.max_le, List.forall_mem_cons, ih]

/-! The written fields. -/

variable {α : Type} {n : String} {q : String × Value → Prop}

theorem forall_field (v : Value) : (∀ f ∈ field n v, q f) ↔ q (n, v) := by
  simp [field]

theorem forall_optional (write : α → Value) (o : Option α) :
    (∀ f ∈ optional n write o, q f) ↔ ∀ a, o = some a → q (n, write a) := by
  cases o <;> simp [optional]

theorem forall_unlessEmpty (write : α → Value) (l : List α) :
    (∀ f ∈ unlessEmpty n write l, q f) ↔ (l ≠ [] → q (n, .list (l.map write))) := by
  cases l <;> simp [unlessEmpty]

theorem forall_entries (write : α → Value) (es : List (String × α)) :
    (∀ f ∈ entries n write es, q f) ↔
      (es ≠ [] → q (n, .record (es.map fun e => (e.1, write e.2)))) := by
  cases es <;> simp [entries]

end ScrapeFleet.Value
