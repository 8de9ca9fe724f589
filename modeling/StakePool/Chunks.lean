/-!
# Cutting a list into runs

`chunks size` cuts a list into runs of `size` elements, the last run possibly shorter. A size of zero
is read as one, so that a cut always makes progress.
-/

namespace StakePool

variable {α : Type}

def chunks (size : Nat) : List α → List (List α)
  | [] => []
  | x :: rest => (x :: rest.take (size - 1)) :: chunks size (rest.drop (size - 1))
termination_by xs => xs.length
decreasing_by simp only [List.length_drop, List.length_cons]; omega

@[simp] theorem chunks_nil (size : Nat) : chunks size ([] : List α) = [] := by rw [chunks]

theorem chunks_cons (size : Nat) (x : α) (rest : List α) :
    chunks size (x :: rest)
      = (x :: rest.take (size - 1)) :: chunks size (rest.drop (size - 1)) := by
  rw [chunks]

theorem flatten_chunks (size : Nat) (xs : List α) : (chunks size xs).flatten = xs := by
  fun_induction chunks size xs with
  | case1 => rfl
  | case2 x rest ih => simp [ih]

end StakePool
