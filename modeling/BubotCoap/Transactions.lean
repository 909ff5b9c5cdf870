import BubotCoap.FallibleState
import BubotCoap.Messages

set_option autoImplicit false

/-!
# Transactions

`transaction.py`: the object that binds a request to its response. Several
tables refer to one transaction, so transactions live in a heap and the tables
hold their numbers.
-/
namespace BubotCoap.Transactions
open PythonData Defines Messages FallibleState

structure Transaction where
  request : Message
  response : Option Message
  /-- The number of the resource that answers the request. -/
  resource : Option ℕ
  timestamp : ℚ
  completed : Bool
  blockTransfer : Bool
  notification : Bool
  overTcp : Bool

def Transaction.new (request : Message) (timestamp : ℚ) : Transaction where
  request := request
  response := none
  resource := none
  timestamp := timestamp
  completed := false
  blockTransfer := false
  notification := false
  overTcp := "tcp".toList.isSuffixOf request.schemeText

/-- The transactions made so far; the numbers from `next` on are unused. -/
structure Heap where
  cell : ℕ → Transaction
  next : ℕ

namespace Heap

def empty : Heap := ⟨fun _ => Transaction.new (Message.new .message) 0, 0⟩

def alloc (h : Heap) (t : Transaction) : ℕ × Heap :=
  (h.next, ⟨fun i => if i = h.next then t else h.cell i, h.next + 1⟩)

def set (h : Heap) (tid : ℕ) (t : Transaction) : Heap :=
  { h with cell := fun i => if i = tid then t else h.cell i }

@[simp] theorem set_cell_self (h : Heap) (tid : ℕ) (t : Transaction) :
    (h.set tid t).cell tid = t := by
  simp [set]

theorem set_cell_of_ne (h : Heap) (tid i : ℕ) (t : Transaction) (hne : i ≠ tid) :
    (h.set tid t).cell i = h.cell i := by
  simp [set, hne]

theorem set_set (h : Heap) (tid : ℕ) (t t' : Transaction) :
    (h.set tid t).set tid t' = h.set tid t' := by
  have hcell : ((h.set tid t).set tid t').cell = (h.set tid t').cell := by
    funext i
    by_cases hi : i = tid
    · rw [hi, set_cell_self, set_cell_self]
    · rw [set_cell_of_ne _ _ _ _ hi, set_cell_of_ne _ _ _ _ hi, set_cell_of_ne _ _ _ _ hi]
  exact congrArg (fun cell => (⟨cell, h.next⟩ : Heap)) hcell

theorem set_self (h : Heap) (tid : ℕ) : h.set tid (h.cell tid) = h := by
  have hcell : (h.set tid (h.cell tid)).cell = h.cell := by
    funext i
    by_cases hi : i = tid
    · rw [hi, set_cell_self]
    · exact set_cell_of_ne h tid i _ hi
  exact congrArg (fun cell => (⟨cell, h.next⟩ : Heap)) hcell

@[simp] theorem set_next (h : Heap) (tid : ℕ) (t : Transaction) : (h.set tid t).next = h.next :=
  rfl

@[simp] theorem alloc_cell_self (h : Heap) (t : Transaction) :
    (h.alloc t).2.cell h.next = t := by
  simp [alloc]

theorem alloc_cell_of_ne (h : Heap) (i : ℕ) (t : Transaction) (hne : i ≠ h.next) :
    (h.alloc t).2.cell i = h.cell i := by
  simp [alloc, hne]

@[simp] theorem alloc_next (h : Heap) (t : Transaction) : (h.alloc t).2.next = h.next + 1 := rfl

end Heap

end BubotCoap.Transactions
