/-
# ScrapeFleet.Dict — finite maps in key order

A map is the list of its entries with strictly ascending keys. The order is part of the type, so two
maps with the same entries are equal, and whatever is written from a map has one order.
-/

namespace ScrapeFleet

/-- A strict total order that can be decided. -/
class Ordered (κ : Type) where
  lt : κ → κ → Bool
  irrefl : ∀ a, lt a a = false
  trans : ∀ {a b c}, lt a b = true → lt b c = true → lt a c = true
  connected : ∀ {a b}, lt a b = false → lt b a = false → a = b

namespace Ordered

variable {κ : Type} [Ordered κ]

theorem asymm {a b : κ} (h : lt a b = true) : lt b a = false := by
  cases h' : lt b a with
  | false => rfl
  | true => have := trans h h'; rw [irrefl] at this; exact this.symm

theorem ne_of_lt {a b : κ} (h : lt a b = true) : a ≠ b := by
  rintro rfl; rw [irrefl] at h; cases h

instance : Ordered String where
  lt a b := decide (a < b)
  irrefl a := by simp
  trans h h' := by
    simp only [decide_eq_true_eq] at *
    exact String.lt_trans h h'
  connected h h' := by
    simp only [decide_eq_false_iff_not] at *
    exact String.le_antisymm (String.not_lt.1 h') (String.not_lt.1 h)

/-- Pairs are ordered by the first part, then by the second. -/
instance {α β : Type} [Ordered α] [Ordered β] [DecidableEq α] : Ordered (α × β) where
  lt a b := lt a.1 b.1 || (a.1 == b.1 && lt a.2 b.2)
  irrefl a := by simp [irrefl]
  trans {a b c} h h' := by
    simp only [Bool.or_eq_true, Bool.and_eq_true, beq_iff_eq] at *
    rcases h with h | ⟨e, h⟩ <;> rcases h' with h' | ⟨e', h'⟩
    · exact .inl (trans h h')
    · exact .inl (e' ▸ h)
    · exact .inl (e ▸ h')
    · exact .inr ⟨e.trans e', trans h h'⟩
  connected {a b} h h' := by
    simp only [Bool.or_eq_false_iff, Bool.and_eq_false_iff] at h h'
    have e : a.1 = b.1 := connected h.1 h'.1
    have h2 : lt a.2 b.2 = false := h.2.resolve_left (by simp [e])
    have h2' : lt b.2 a.2 = false := h'.2.resolve_left (by simp [e])
    exact Prod.ext e (connected h2 h2')

end Ordered

/-- A finite map; its entries are listed in ascending order of keys. -/
structure Dict (κ α : Type) [Ordered κ] where
  entries : List (κ × α)
  ascending : entries.Pairwise (fun a b => Ordered.lt a.1 b.1 = true) := by simp

namespace Dict

variable {κ α β : Type} [Ordered κ]

@[ext] theorem ext {m n : Dict κ α} (h : m.entries = n.entries) : m = n := by
  cases m; cases n; cases h; rfl

instance [DecidableEq κ] [DecidableEq α] : DecidableEq (Dict κ α) := fun m n =>
  if h : m.entries = n.entries then .isTrue (ext h) else .isFalse fun e => h (e ▸ rfl)

instance [Repr κ] [Repr α] : Repr (Dict κ α) := ⟨fun m p => reprPrec m.entries p⟩

/-- No entries. -/
def empty : Dict κ α := ⟨[], .nil⟩

instance : Inhabited (Dict κ α) := ⟨empty⟩
instance : EmptyCollection (Dict κ α) := ⟨empty⟩

/-- Puts an entry into an ascending list, in place of one with the same key. -/
def insertEntry (k : κ) (a : α) : List (κ × α) → List (κ × α)
  | [] => [(k, a)]
  | e :: es =>
    if Ordered.lt k e.1 then (k, a) :: e :: es
    else if Ordered.lt e.1 k then e :: insertEntry k a es
    else (k, a) :: es

theorem mem_insertEntry {k : κ} {a : α} {es : List (κ × α)} {e : κ × α}
    (h : e ∈ insertEntry k a es) : e = (k, a) ∨ e ∈ es := by
  induction es with
  | nil => simpa [insertEntry] using h
  | cons d es ih =>
    unfold insertEntry at h
    split at h
    · simpa using h
    · split at h
      · rcases List.mem_cons.1 h with h | h
        · exact .inr (by simp [h])
        · rcases ih h with h | h
          · exact .inl h
          · exact .inr (by simp [h])
      · rcases List.mem_cons.1 h with h | h
        · exact .inl h
        · exact .inr (by simp [h])

theorem pairwise_insertEntry (k : κ) (a : α) {es : List (κ × α)}
    (h : es.Pairwise (fun a b => Ordered.lt a.1 b.1 = true)) :
    (insertEntry k a es).Pairwise (fun a b => Ordered.lt a.1 b.1 = true) := by
  induction es with
  | nil => simp [insertEntry]
  | cons d es ih =>
    obtain ⟨hd, hes⟩ := List.pairwise_cons.1 h
    unfold insertEntry
    split
    · rename_i hk
      refine List.pairwise_cons.2 ⟨fun e he => ?_, h⟩
      rcases List.mem_cons.1 he with rfl | he
      · exact hk
      · exact Ordered.trans hk (hd e he)
    · split
      · rename_i hk
        refine List.pairwise_cons.2 ⟨fun e he => ?_, ih hes⟩
        rcases mem_insertEntry he with rfl | he
        · exact hk
        · exact hd e he
      · rename_i hk hk'
        have : d.1 = k := Ordered.connected (by simpa using hk') (by simpa using hk)
        exact List.pairwise_cons.2 ⟨fun e he => this ▸ hd e he, hes⟩

/-- Adds an entry; one with the same key is replaced. -/
def insert (m : Dict κ α) (k : κ) (a : α) : Dict κ α :=
  ⟨insertEntry k a m.entries, pairwise_insertEntry k a m.ascending⟩

/-- The map of a list of entries; of two with one key the later counts. -/
def ofList (es : List (κ × α)) : Dict κ α := es.foldl (fun m e => m.insert e.1 e.2) empty

/-- The entries in key order. -/
def toList (m : Dict κ α) : List (κ × α) := m.entries

/-- The keys in order. -/
def keys (m : Dict κ α) : List κ := m.entries.map (·.1)

/-- The values in key order. -/
def values (m : Dict κ α) : List α := m.entries.map (·.2)

/-- How many entries there are. -/
def size (m : Dict κ α) : Nat := m.entries.length

/-- There is no entry. -/
def isEmpty (m : Dict κ α) : Bool := m.entries.isEmpty

/-- The value at a key. -/
def get? [BEq κ] (m : Dict κ α) (k : κ) : Option α := m.entries.lookup k

/-- The key has an entry. -/
def contains [BEq κ] (m : Dict κ α) (k : κ) : Bool := (m.get? k).isSome

/-- Keeps the entries that satisfy `p`. -/
def filter (p : κ → α → Bool) (m : Dict κ α) : Dict κ α :=
  ⟨m.entries.filter fun e => p e.1 e.2, m.ascending.sublist List.filter_sublist⟩

theorem pairwise_filterMap (f : κ → α → Option β) {es : List (κ × α)}
    (h : es.Pairwise (fun a b => Ordered.lt a.1 b.1 = true)) :
    (es.filterMap fun e => (f e.1 e.2).map fun b => (e.1, b)).Pairwise
      (fun a b => Ordered.lt a.1 b.1 = true) := by
  refine List.Pairwise.filterMap _ (fun a a' haa b hb b' hb' => ?_) h
  obtain ⟨_, _, rfl⟩ := Option.map_eq_some_iff.1 hb
  obtain ⟨_, _, rfl⟩ := Option.map_eq_some_iff.1 hb'
  exact haa

/-- Changes or gives up each entry. -/
def filterMap (f : κ → α → Option β) (m : Dict κ α) : Dict κ β :=
  ⟨m.entries.filterMap fun e => (f e.1 e.2).map fun b => (e.1, b), pairwise_filterMap f m.ascending⟩

/-- Removes the entry at a key. -/
def erase [BEq κ] (m : Dict κ α) (k : κ) : Dict κ α := m.filter fun k' _ => !(k' == k)

/-- Changes the values, with a look at the keys. -/
def mapValues (f : κ → α → β) (m : Dict κ α) : Dict κ β :=
  ⟨m.entries.map fun e => (e.1, f e.1 e.2), by
    rw [List.pairwise_map]; exact m.ascending⟩

end Dict

end ScrapeFleet
