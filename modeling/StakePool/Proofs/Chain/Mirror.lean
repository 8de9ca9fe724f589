import Mathlib.Data.List.Pairwise
import Mathlib.Logic.Function.Basic
import StakePool.Chain.Invocation
/-!
# Cells and views

A running program finds its accounts by handles in cells, a store finds them by their keys. Cells
`Mirror` a view of the accounts when the handles on accounts that matter find there what the view
says. Putting an account into a cell is then an update of the view, which is all that the comparison
of the two has to know about cells.
-/

namespace StakePool

namespace Chain

theorem exists_find?_eq_some {α : Type} (p : α → Prop) [DecidablePred p] {xs : List α} {x : α}
    (hx : x ∈ xs) (h : p x) : ∃ found ∈ xs, xs.find? (p ·) = some found ∧ p found := by
  have hsome : (xs.find? (p ·)).isSome := List.find?_isSome.mpr ⟨x, hx, decide_eq_true h⟩
  obtain ⟨found, hfound⟩ := Option.isSome_iff_exists.mp hsome
  refine ⟨found, List.mem_of_find?_eq_some hfound, hfound, ?_⟩
  simpa using List.find?_some hfound

/-- The handles are on different accounts. -/
def Handle.Apart (handle other : Handle) : Prop :=
  handle.key ≠ other.key ∧ handle.cell ≠ other.cell

instance : DecidableRel Handle.Apart := fun _ _ => inferInstanceAs (Decidable (_ ∧ _))

instance : Std.Symm Handle.Apart := ⟨fun _ _ h => ⟨h.1.symm, h.2.symm⟩⟩

namespace Cells

variable {cells : Cells} {handle other : Handle} {account : Account}

/-- The handles are on different accounts, and all of them are there. -/
structure HoldsApart (cells : Cells) (handles : List Handle) : Prop where
  cell_lt : ∀ handle ∈ handles, handle.cell < cells.length
  pairwise_apart : handles.Pairwise Handle.Apart

/-- Take lamports from an account. -/
def charge (cells : Cells) (payer : Handle) (lamports : UInt64) : Cells :=
  cells.put payer { cells.get payer with lamports := (cells.get payer).lamports - lamports }

theorem get_put_self (hcell : handle.cell < cells.length) :
    (cells.put handle account).get handle = account := by
  simp [put, get, hcell]

theorem get_put_of_ne (hcell : other.cell ≠ handle.cell) :
    (cells.put handle account).get other = cells.get other := by
  simp [put, get, List.getElem?_set_ne hcell.symm]

@[simp] theorem put_put (handle : Handle) (account last : Account) :
    (cells.put handle account).put handle last = cells.put handle last := by
  simp [put]

theorem put_comm (hcell : handle.cell ≠ other.cell) (account last : Account) :
    (cells.put handle account).put other last = (cells.put other last).put handle account :=
  List.set_comm _ _ hcell

@[simp] theorem length_put (handle : Handle) (account : Account) :
    (cells.put handle account).length = cells.length := List.length_set

theorem HoldsApart.apart {payer target : Handle} (h : cells.HoldsApart [payer, target]) :
    payer.Apart target :=
  List.rel_of_pairwise_cons h.pairwise_apart (List.mem_singleton_self target)

theorem HoldsApart.get_charged {payer target : Handle} (h : cells.HoldsApart [payer, target])
    (lamports : UInt64) (account : Account) :
    ((cells.charge payer lamports).put target account).get payer
        = { cells.get payer with lamports := (cells.get payer).lamports - lamports }
      ∧ ((cells.charge payer lamports).put target account).get target = account := by
  constructor
  · rw [get_put_of_ne h.apart.2, charge, get_put_self (h.cell_lt payer (by simp))]
  · rw [get_put_self]
    rw [charge, length_put]
    exact h.cell_lt target (by simp)

end Cells

/-! ### Views -/

/-- A view of the accounts after an amount has been taken from the payer. -/
def debit (view : Key → Account) (payer : Key) (amount : UInt64) : Key → Account :=
  Function.update view payer { view payer with lamports := (view payer).lamports - amount }

theorem debit_zero (view : Key → Account) (payer : Key) : debit view payer 0 = view := by
  rw [debit, UInt64.sub_zero]
  exact Function.update_eq_self payer view

/-- Behind the handles on accounts that matter lies what the view has under their keys, and two
handles share a cell exactly when they name the same account. -/
structure Mirror (handles : List Handle) (Matters : Key → Prop) (cells : Cells)
    (view : Key → Account) : Prop where
  cell_lt : ∀ handle ∈ handles, handle.cell < cells.length
  cell_inj : ∀ handle ∈ handles, ∀ other ∈ handles,
    handle.cell = other.cell ↔ handle.key = other.key
  get_eq : ∀ handle ∈ handles, Matters handle.key → cells.get handle = view handle.key

namespace Mirror

variable {handles : List Handle} {Matters : Key → Prop} {cells : Cells} {view : Key → Account}
  {handle payer target : Handle}

theorem put (h : Mirror handles Matters cells view) (hhandle : handle ∈ handles)
    (account : Account) :
    Mirror handles Matters (cells.put handle account)
      (Function.update view handle.key account) where
  cell_lt other hother := by
    rw [Cells.length_put]
    exact h.cell_lt other hother
  cell_inj := h.cell_inj
  get_eq other hother hmatters := by
    by_cases hkey : other.key = handle.key
    · have hcell := (h.cell_inj other hother handle hhandle).mpr hkey
      rw [hkey, Function.update_self, Cells.get, hcell]
      exact Cells.get_put_self (h.cell_lt handle hhandle)
    · have hcell := mt (h.cell_inj other hother handle hhandle).mp hkey
      rw [Function.update_of_ne hkey, Cells.get_put_of_ne hcell]
      exact h.get_eq other hother hmatters

theorem charge (h : Mirror handles Matters cells view) (hpayer : payer ∈ handles)
    (hmatters : Matters payer.key) (lamports : UInt64) :
    Mirror handles Matters (cells.charge payer lamports) (debit view payer.key lamports) := by
  rw [Cells.charge, h.get_eq payer hpayer hmatters]
  exact h.put hpayer _

theorem holdsApart (h : Mirror handles Matters cells view) (hpayer : payer ∈ handles)
    (htarget : target ∈ handles) (hne : target.key ≠ payer.key) :
    cells.HoldsApart [payer, target] where
  cell_lt := by simp [h.cell_lt payer hpayer, h.cell_lt target htarget]
  pairwise_apart := by
    have hcell := mt (h.cell_inj payer hpayer target htarget).mp hne.symm
    exact List.pairwise_pair.mpr ⟨hne.symm, hcell⟩

end Mirror

end Chain

end StakePool
