/-!
A queue in two lists: what was put in last comes first in the one that is put into. Seen as one
list, what is taken is its first element and what is put in becomes its last.
-/
namespace EventLog

structure Queue (α : Type) where
  front : List α := []
  back : List α := []
  deriving Repr

namespace Queue

variable {α : Type}

def toList (q : Queue α) : List α := q.front ++ q.back.reverse

def size (q : Queue α) : Nat := q.front.length + q.back.length

def push (q : Queue α) (a : α) : Queue α := { q with back := a :: q.back }

def pop? (q : Queue α) : Option (α × Queue α) :=
  match q.front with
  | a :: rest => some (a, { q with front := rest })
  | [] =>
    match q.back.reverse with
    | a :: rest => some (a, { front := rest })
    | [] => none

@[simp] theorem toList_empty : ({} : Queue α).toList = [] := rfl

@[simp] theorem toList_push (q : Queue α) (a : α) : (q.push a).toList = q.toList ++ [a] := by
  simp [toList, push]

theorem length_toList (q : Queue α) : q.toList.length = q.size := by simp [toList, size]

/-- What is taken is the first element, and the others stay in order. -/
theorem pop?_eq_some {q rest : Queue α} {a : α} (h : q.pop? = some (a, rest)) :
    q.toList = a :: rest.toList := by
  unfold pop? at h
  split at h
  · next b more hf =>
    cases h
    simp [toList, hf]
  · next hf =>
    split at h
    · next b more hb =>
      cases h
      simp [toList, hf, hb]
    · cases h

theorem pop?_eq_none_iff (q : Queue α) : q.pop? = none ↔ q.toList = [] := by
  unfold pop? toList
  split
  · next hf => simp [hf]
  · next hf => cases hb : q.back.reverse <;> simp [hf]

end Queue

end EventLog
