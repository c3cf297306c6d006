import EventLog.Disk.Path

/-!
The entries of a disk by their locations, as a tree in which every name leads to the entries below
it and to the next name beside it. What is put at a location is found there and changes no other.
-/
namespace EventLog

inductive Entry where
  | directory
  | file (id : Nat)
  | link (target : Path)
  deriving DecidableEq, Repr

/-- Entries by their locations. A name without an entry of its own may still lead to others. -/
inductive Entries where
  | nil
  | node (name : Name) (entry : Option Entry) (below next : Entries)
  deriving DecidableEq, Repr

namespace Entries

def get? : Entries → Location → Option Entry
  | nil, _ => none
  | node _ _ _ _, [] => none
  | node n e below next, name :: rest =>
    if n = name then (if rest = [] then e else below.get? rest) else next.get? (name :: rest)

def only (new : Entry) : Location → Entries
  | [] => nil
  | name :: rest =>
    if rest = [] then node name (some new) nil nil else node name none (only new rest) nil

def insert (new : Entry) : Entries → Location → Entries
  | nil, loc => only new loc
  | node n e below next, [] => node n e below next
  | node n e below next, name :: rest =>
    if n = name then
      if rest = [] then node n (some new) below next else node n e (below.insert new rest) next
    else node n e below (next.insert new (name :: rest))

def erase : Entries → Location → Entries
  | nil, _ => nil
  | node n e below next, [] => node n e below next
  | node n e below next, name :: rest =>
    if n = name then
      if rest = [] then node n none below next else node n e (below.erase rest) next
    else node n e below (next.erase (name :: rest))

/-- Entries without the one at a location and without those below it. -/
def prune : Entries → Location → Entries
  | nil, _ => nil
  | node n e below next, [] => node n e below next
  | node n e below next, name :: rest =>
    if n = name then
      if rest = [] then next.prune (name :: rest) else node n e (below.prune rest) next
    else node n e below (next.prune (name :: rest))

def toList : Entries → List (Location × Entry)
  | nil => []
  | node n e below next =>
    (e.toList.map fun e => ([n], e)) ++ (below.toList.map fun (loc, e) => (n :: loc, e))
      ++ next.toList

def size : Entries → Nat
  | nil => 0
  | node _ e below next => e.toList.length + below.size + next.size

@[simp] theorem get?_nil (loc : Location) : nil.get? loc = none := by cases loc <;> rfl

@[simp] theorem get?_root (es : Entries) : es.get? [] = none := by cases es <;> rfl

private theorem get?_only (new : Entry) (loc other : Location) (h : loc ≠ []) :
    (only new loc).get? other = if other = loc then some new else none := by
  induction loc generalizing other with
  | nil => exact absurd rfl h
  | cons name rest ih =>
    cases other with
    | nil => simp
    | cons first more =>
      by_cases hr : rest = []
      · subst hr
        by_cases hn : name = first <;> by_cases hm : more = [] <;>
          simp [only, get?, hn, hm, eq_comm]
      · by_cases hn : name = first
        · subst hn
          by_cases hm : more = []
          · subst hm
            simp [only, get?, hr, eq_comm]
          · simp [only, get?, hr, hm, ih more hr]
        · simp [only, get?, hr, hn, eq_comm]

/-- What is put at a location is found there, and nothing else changes. -/
theorem get?_insert (new : Entry) (es : Entries) (loc other : Location) (h : loc ≠ []) :
    (es.insert new loc).get? other = if other = loc then some new else es.get? other := by
  induction es generalizing loc other with
  | nil => simpa [insert] using get?_only new loc other h
  | node n e below next ihBelow ihNext =>
    cases loc with
    | nil => exact absurd rfl h
    | cons name rest =>
      cases other with
      | nil => simp
      | cons first more =>
        by_cases hn : n = name
        · subst hn
          by_cases hr : rest = []
          · subst hr
            by_cases hf : n = first <;> by_cases hm : more = [] <;>
              simp [insert, get?, hf, hm, eq_comm]
          · by_cases hf : n = first
            · subst hf
              by_cases hm : more = []
              · subst hm
                simp [insert, get?, hr, eq_comm]
              · simp [insert, get?, hr, hm, ihBelow rest more hr]
            · simp [insert, get?, hr, hf, eq_comm]
        · by_cases hf : n = first
          · subst hf
            simp [insert, get?, hn]
          · simp [insert, get?, hn, hf, ihNext (name :: rest) (first :: more) (by simp)]

/-- An erased location is empty, and nothing else changes. -/
theorem get?_erase (es : Entries) (loc other : Location) :
    (es.erase loc).get? other = if other = loc then none else es.get? other := by
  induction es generalizing loc other with
  | nil => simp [erase]
  | node n e below next ihBelow ihNext =>
    cases loc with
    | nil => cases other <;> simp [erase]
    | cons name rest =>
      cases other with
      | nil => simp
      | cons first more =>
        by_cases hn : n = name
        · subst hn
          by_cases hr : rest = []
          · subst hr
            by_cases hf : n = first <;> by_cases hm : more = [] <;>
              simp [erase, get?, hf, hm, eq_comm]
          · by_cases hf : n = first
            · subst hf
              by_cases hm : more = []
              · subst hm
                simp [erase, get?, hr, eq_comm]
              · simp [erase, get?, hr, hm, ihBelow rest more]
            · simp [erase, get?, hr, hf, eq_comm]
        · by_cases hf : n = first
          · subst hf
            simp [erase, get?, hn]
          · simp [erase, get?, hn, hf, ihNext (name :: rest) (first :: more)]

/-- A pruned location is empty with all below it, and nothing else changes. -/
theorem get?_prune (es : Entries) (loc other : Location) (h : loc ≠ []) :
    (es.prune loc).get? other = if loc <+: other then none else es.get? other := by
  induction es generalizing loc other with
  | nil => simp [prune]
  | node n e below next ihBelow ihNext =>
    cases loc with
    | nil => exact absurd rfl h
    | cons name rest =>
      cases other with
      | nil => simp
      | cons first more =>
        by_cases hn : n = name
        · subst hn
          by_cases hr : rest = []
          · subst hr
            have ih := ihNext [n] (first :: more) (by simp)
            by_cases hf : n = first <;> simp_all [prune, get?, List.cons_prefix_cons]
          · by_cases hf : n = first
            · subst hf
              by_cases hm : more = []
              · subst hm
                simp [prune, get?, hr, List.cons_prefix_cons]
              · simp [prune, get?, hr, hm, ihBelow rest more hr, List.cons_prefix_cons]
            · simp [prune, get?, hr, hf, List.cons_prefix_cons]
        · by_cases hf : n = first
          · subst hf
            simp [prune, get?, hn, List.cons_prefix_cons, eq_comm]
          · simp [prune, get?, hn, hf, ihNext (name :: rest) (first :: more) (by simp)]

theorem length_toList (es : Entries) : es.toList.length = es.size := by
  induction es with
  | nil => rfl
  | node n e below next ihBelow ihNext => simp [toList, size, ihBelow, ihNext, Nat.add_assoc]

/-- Every entry that can be found is among all entries. -/
theorem mem_toList_of_get? {es : Entries} {loc : Location} {e : Entry}
    (h : es.get? loc = some e) : (loc, e) ∈ es.toList := by
  induction es generalizing loc with
  | nil => simp at h
  | node n own below next ihBelow ihNext =>
    cases loc with
    | nil => simp at h
    | cons name rest =>
      simp only [get?] at h
      simp only [toList, List.mem_append, List.mem_map]
      split at h
      · next hn =>
        subst hn
        split at h
        · next hr => subst hr; exact .inl (.inl ⟨e, by simp [h], rfl⟩)
        · exact .inl (.inr ⟨(rest, e), ihBelow h, rfl⟩)
      · exact .inr (ihNext h)

end Entries

end EventLog
