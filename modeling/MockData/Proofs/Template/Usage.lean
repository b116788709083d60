import MockData.Proofs.Text.Dictionary
import MockData.Template.Resolve

/-!
# Counting calls

What is counted under a path after one more call, and after many. Calls are added up path by path,
so that counts from before have no part in what is added.
-/

namespace MockData

namespace Usage

/-- Only calls that happened are listed. -/
def Positive (u : Usage) : Prop := ∀ path n, Dictionary.get? u path = some n → 0 < n

theorem count_nil (path : String) : count [] path = 0 := rfl

theorem count_add (u : Usage) (path other : String) (n : Nat) :
    (u.add path n).count other = u.count other + if other = path then n else 0 := by
  unfold count add
  rw [Dictionary.get?_put]
  by_cases same : other = path
  · subst same
    simp [count]
  · simp [same]

theorem positive_nil : Positive [] := fun _ _ found => nomatch found

theorem positive_add {u : Usage} (positive : u.Positive) (path : String) :
    (u.add path 1).Positive := by
  intro other n found
  unfold add at found
  rw [Dictionary.get?_put] at found
  split at found
  · cases found
    exact Nat.succ_pos _
  · exact positive other n found

theorem get?_of_positive {u : Usage} (positive : u.Positive) (path : String) :
    Dictionary.get? u path = if u.count path = 0 then none else some (u.count path) := by
  unfold count
  cases found : Dictionary.get? u path with
  | none => rfl
  | some n => simp [Nat.ne_of_gt (positive path n found)]

def addAll (u : Usage) (calls : List String) : Usage := calls.foldl (fun u path => u.add path 1) u

theorem addAll_append (u : Usage) (calls more : List String) :
    u.addAll (calls ++ more) = (u.addAll calls).addAll more := List.foldl_append

theorem get?_addAll (u : Usage) (calls : List String) (path : String) :
    Dictionary.get? (u.addAll calls) path =
      if calls.count path = 0 then Dictionary.get? u path
      else some (u.count path + calls.count path) := by
  induction calls generalizing u with
  | nil => rfl
  | cons call rest ih =>
    have step : u.addAll (call :: rest) = (u.add call 1).addAll rest := rfl
    rw [step, ih, count_add, List.count_cons]
    by_cases here : path = call
    · subst here
      simp [add, Dictionary.get?_put, Nat.add_assoc, Nat.add_comm 1]
    · simp [add, Dictionary.get?_put, here, Ne.symm here]

theorem positive_addAll {u : Usage} (positive : u.Positive) (calls : List String) :
    (u.addAll calls).Positive := by
  induction calls generalizing u with
  | nil => exact positive
  | cons call rest ih => exact ih (positive_add positive call)

theorem count_addAll (u : Usage) (calls : List String) (path : String) :
    (u.addAll calls).count path = u.count path + calls.count path := by
  unfold count
  rw [get?_addAll]
  split
  · rename_i none
    rw [none, Nat.add_zero]
  · rfl

theorem get?_addAll_eq_merge (u : Usage) (calls : List String) (path : String) :
    Dictionary.get? (u.addAll calls) path =
      (Dictionary.get? u path).merge (· + ·) (Dictionary.get? (addAll [] calls) path) := by
  have nothing : Dictionary.get? ([] : Usage) path = none := rfl
  rw [get?_addAll, get?_addAll, count_nil, nothing]
  by_cases absent : calls.count path = 0
  · simp [absent]
  · cases found : Dictionary.get? u path <;> simp [absent, count, found]

end Usage

end MockData
