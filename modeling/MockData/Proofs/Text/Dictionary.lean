import MockData.Text.Dictionary

/-!
# The order of texts and dictionaries

`before_iff` ties the comparison of texts to the order of strings, so that its laws need not be
proved again, and `sorted_ascending` says what sorting gives. `put` changes what is found under its
own key and nothing else, and keeps the keys in their order.
-/

namespace MockData

namespace Text

theorem order_lt_iff (s t : List Char) : order s t = .lt ↔ s < t := by
  induction s generalizing t with
  | nil => cases t <;> simp [order]
  | cons c s ih =>
    cases t with
    | nil => simp [order]
    | cons d t =>
      rw [List.cons_lt_cons_iff, ← ih, order, ← Char.toNat_inj]
      change _ ↔ c.toNat < d.toNat ∨ _
      split
      · rename_i same
        simp [same]
      · rename_i different
        split <;> simp_all

theorem before_iff (s t : String) : before s t = true ↔ s < t := by
  rw [before, beq_iff_eq, order_lt_iff]
  exact Iff.rfl

theorem atMost_iff (s t : String) : atMost s t = true ↔ s ≤ t := by
  rw [atMost, Bool.not_eq_true', ← Bool.not_eq_true, before_iff, String.not_lt]

theorem sorted_perm (texts : List String) : (sorted texts).Perm texts :=
  List.mergeSort_perm texts atMost

theorem sorted_ascending (texts : List String) : (sorted texts).Pairwise (· ≤ ·) := by
  have ordered : (sorted texts).Pairwise fun s t => atMost s t = true := by
    apply List.pairwise_mergeSort
    · intro s t u first second
      rw [atMost_iff] at first second ⊢
      exact String.le_trans first second
    · intro s t
      rw [Bool.or_eq_true, atMost_iff, atMost_iff]
      exact String.le_total s t
  exact ordered.imp fun le => (atMost_iff _ _).mp le

/-- Different texts are sorted into a strict order. -/
theorem sorted_strict {texts : List String} (distinct : texts.Nodup) :
    (sorted texts).Pairwise (· < ·) := by
  have apart : (sorted texts).Nodup := (sorted_perm texts).nodup_iff.mpr distinct
  refine ((sorted_ascending texts).and apart).imp ?_
  rintro s t ⟨le, different⟩
  exact String.not_le.mp fun ge => different (String.le_antisymm le ge)

end Text

namespace Dictionary

variable {α : Type}

theorem get?_cons (key k : String) (v : α) (rest : Dictionary α) :
    get? ((k, v) :: rest) key = if key = k then some v else get? rest key := by
  by_cases same : key = k
  · simp [get?, same]
  · simp [get?, List.lookup_cons, same, beq_false_of_ne same]

theorem get?_put (d : Dictionary α) (key k : String) (value : α) :
    get? (put key value d) k = if k = key then some value else get? d k := by
  induction d with
  | nil => simp [put, get?_cons]
  | cons entry rest ih =>
    obtain ⟨name, v⟩ := entry
    unfold put
    split
    · rename_i same
      subst same
      by_cases here : k = name <;> simp [get?_cons, here]
    · rename_i different
      split
      · rw [get?_cons]
      · rw [get?_cons, get?_cons, ih]
        by_cases here : k = name
        · subst here
          simp [different]
        · simp [here]

def Ascending (d : Dictionary α) : Prop := d.Pairwise fun one other => one.1 < other.1

theorem mem_put {d : Dictionary α} {key : String} {value : α} {entry : String × α}
    (member : entry ∈ put key value d) : entry = (key, value) ∨ entry ∈ d := by
  induction d with
  | nil => simpa [put] using member
  | cons first rest ih =>
    obtain ⟨k, v⟩ := first
    unfold put at member
    split at member
    · rcases List.mem_cons.mp member with here | later
      · exact .inl here
      · exact .inr (List.mem_cons_of_mem _ later)
    · split at member
      · simpa using member
      · rcases List.mem_cons.mp member with here | later
        · exact .inr (here ▸ List.mem_cons_self)
        · exact (ih later).imp_right (List.mem_cons_of_mem _)

theorem put_ne_nil (key : String) (value : α) (d : Dictionary α) : put key value d ≠ [] := by
  cases d with
  | nil => simp [put]
  | cons first rest =>
    unfold put
    split
    · simp
    · split <;> simp

theorem put_ascending {d : Dictionary α} (ascending : Ascending d) (key : String) (value : α) :
    Ascending (put key value d) := by
  induction d with
  | nil => exact List.pairwise_singleton _ _
  | cons first rest ih =>
    obtain ⟨k, v⟩ := first
    obtain ⟨least, behind⟩ := List.pairwise_cons.mp ascending
    unfold put
    split
    · rename_i same
      subst same
      exact List.pairwise_cons.mpr ⟨least, behind⟩
    · rename_i different
      split
      · rename_i before
        have lt : key < k := (Text.before_iff _ _).mp before
        refine List.pairwise_cons.mpr ⟨fun entry member => ?_, ascending⟩
        rcases List.mem_cons.mp member with rfl | later
        · exact lt
        · exact String.lt_trans lt (least entry later)
      · rename_i after
        have lt : k < key := by
          rw [Text.before_iff, String.not_lt] at after
          exact String.not_le.mp fun ge => different (String.le_antisymm after ge)
        refine List.pairwise_cons.mpr ⟨fun entry member => ?_, ih behind⟩
        rcases mem_put member with rfl | later
        · exact lt
        · exact least entry later

/-- Where the keys ascend, looking up finds exactly the entries that are there. -/
theorem get?_eq_some_iff {d : Dictionary α} (ascending : Ascending d) {key : String} {value : α} :
    get? d key = some value ↔ (key, value) ∈ d := by
  induction d with
  | nil => simp [get?]
  | cons first rest ih =>
    obtain ⟨k, v⟩ := first
    obtain ⟨least, behind⟩ := List.pairwise_cons.mp ascending
    rw [get?_cons, List.mem_cons]
    by_cases here : key = k
    · subst here
      have absent : (key, value) ∉ rest := fun later =>
        String.lt_irrefl key (least (key, value) later)
      simp [absent, eq_comm]
    · simp [here, ih behind]

end Dictionary

end MockData
