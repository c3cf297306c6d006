import EventLog.Proofs.Rolling.NameOrder
import EventLog.Proofs.Rolling.NewFiles
import Mathlib

/-! The files that a writer opens, on a disk that others use as well but that nothing is removed
from. Each stands under the first free name of its time, so that a later one has a later name than
all that were opened before it for the same folder and the same stem. -/
namespace EventLog
open Target (logName TakenTo)

/-- What others leave behind on a disk from which nothing is removed. -/
structure Disk.Tended (d after : Disk) : Prop where
  retains : d.Retains after
  length : d.files.length ≤ after.files.length

/-- A log file that was opened: its target and the time of the event that it was opened for, its
number and path, and the events that were handed to it. -/
structure Opening where
  target : Target
  time : Instant
  id : Nat
  path : Path
  events : List Event
  deriving DecidableEq

namespace Opening

def name (o : Opening) : Name := o.path.names.getLast?.getD []

def hand (o : Opening) (e : Event) : Opening := { o with events := o.events ++ [e] }

def isIn (d : Disk) (folder : Location) (stem : String) (o : Opening) : Bool :=
  o.target.stem = stem ∧ d.folder? o.path = some folder

/-- The file stands in its folder, under a name that was counted up `n` times, and so many names
before it are taken. -/
structure Stands (zone : Zone) (d : Disk) (o : Opening) (folder : Location) (n : Nat) : Prop where
  path : ∃ suffix, o.path = o.target.filePath (o.time.date zone) suffix
  name : o.name = logName o.target.stem (o.time.date zone)
    (UInt64.ofInt o.time.millis + UInt64.ofNat n)
  place : d.folder? o.path = some folder
  entry : d.entry? (folder ++ [o.name]) = some (.file o.id)
  taken : TakenTo d folder o.target.stem (o.time.date zone) (UInt64.ofInt o.time.millis) (n + 1)

private theorem Stands.of_retains {zone : Zone} {d after : Disk} {o : Opening} {folder : Location}
    {n : Nat} (h : o.Stands zone d folder n) (hk : d.Retains after) :
    o.Stands zone after folder n :=
  ⟨h.path, h.name, Disk.folder?_of_retains hk h.place, hk.entry h.entry, h.taken.of_retains hk⟩

end Opening

namespace Target

variable {t : Target} {d after : Disk} {zone : Zone} {time : Instant} {f : OpenFile}

/-- The log files of a target have one folder. -/
theorem folder_unique {folder other : Location} {date date' : Date} {suffix suffix' : UInt64}
    (h : d.folder? (t.filePath date suffix) = some folder)
    (h' : d.folder? (t.filePath date' suffix') = some other) : folder = other := by
  refine Disk.folder?_unique h h' ?_ ?_
  · rw [filePath_eq, filePath_eq, Path.isAbsolute, Path.isAbsolute]
    cases t.base with
    | nil => rfl
    | cons b rest => rfl
  · rw [names_filePath_eq, names_filePath_eq, List.dropLast_concat, List.dropLast_concat]

/-- A log file that was opened stands where nothing stood, under the first free name. -/
theorem stands_of_openFile (h : t.openFile d zone time = (after, .ok f)) (events : List Event) :
    ∃ made folder n, d.Keeps made ∧ made.Keeps after ∧
      (Opening.mk t time f.id f.path events).Stands zone after folder n ∧
      TakenTo made folder t.stem (time.date zone) (UInt64.ofInt time.millis) n ∧
      made.entry? (folder ++ [logName t.stem (time.date zone)
        (UInt64.ofInt time.millis + UInt64.ofNat n)]) = none := by
  have hkeeps := (Disk.keeps_makeDirectories d t.dir).1
  unfold openFile at h
  split at h
  · cases h
  · next made hmade =>
    rw [hmade] at hkeeps
    split at h
    · cases h
    · next id path created hcreate =>
      obtain ⟨n, hfirst, hpath⟩ := firstFree_of_createFrom hcreate
      obtain ⟨-, -, hfile⟩ := createFrom_eq_ok hcreate
      obtain ⟨-, -, hmore, loc, hplace, hfree, hthere⟩ := Disk.createFile_eq_ok hfile
      simp only [Prod.mk.injEq, Except.ok.injEq] at h
      obtain ⟨rfl, rfl⟩ := h
      have hlast := getLast?_names_filePath t (time.date zone)
      obtain ⟨name, folder, -, hname, rfl, -⟩ := Disk.nameLocation_eq_some hplace
      obtain rfl : name = logName t.stem (time.date zone)
          (UInt64.ofInt time.millis + UInt64.ofNat n) := by
        rw [hpath, hlast] at hname
        exact (Option.some.inj hname).symm
      have hfolder := Disk.folder?_of_nameLocation hplace
      have htaken : TakenTo made folder t.stem (time.date zone) (UInt64.ofInt time.millis) n := by
        intro m hm
        obtain ⟨other, hother, hisSome⟩ :=
          (hfirst.taken m hm).folder? (hlast _) (logName_ne_dots _ _ _)
        obtain rfl : folder = other := folder_unique (hpath ▸ hfolder) hother
        exact hisSome
      have hnamed : (Opening.mk t time id path events).name = logName t.stem (time.date zone)
          (UInt64.ofInt time.millis + UInt64.ofNat n) := by
        rw [Opening.name, hname]
        rfl
      refine ⟨made, folder, n, hkeeps, hmore, ⟨⟨_, hpath⟩, hnamed,
        Disk.folder?_of_retains hmore.retains hfolder, hnamed ▸ hthere, fun m hm => ?_⟩, htaken,
        hfree⟩
      rcases Nat.lt_succ_iff_lt_or_eq.mp hm with hm | rfl
      · exact hmore.retains.isSome (htaken m hm)
      · rw [hthere]
        rfl

end Target

namespace Rolling

/-- The openings after a call. An event that gets a file opens it, and one that needs none is handed
to the file that was opened last. -/
def noted (d : Disk) (w : Rolling) (os : List Opening) : Call → List Opening
  | .write e =>
    if w.needsFile e then
      match (w.target.openFile d w.zone e.time).2 with
      | .ok f => os ++ [⟨w.target, e.time, f.id, f.path, [e]⟩]
      | .error _ => os
    else os.dropLast ++ (os.getLast?.map (·.hand e)).toList
  | _ => os

/-- The runs of a writer from `d₀` and `w₀` on, with others that use the disk between its calls, and
the files that it has opened. If `sound` holds the disk takes every byte, and the others leave the
files of the writer as they are. -/
inductive Chronicle (d₀ : Disk) (w₀ : Rolling) (sound : Prop) :
    List Call → Disk → Rolling → List Opening → Prop
  | start (takes : sound → d₀.refusesBytes = none) : Chronicle d₀ w₀ sound [] d₀ w₀ []
  | call {calls d w os} (before : Chronicle d₀ w₀ sound calls d w os) (c : Call) :
      Chronicle d₀ w₀ sound (calls ++ [c]) (c.run d w).disk (c.run d w).writer (noted d w os c)
  | others {calls d w os after} (before : Chronicle d₀ w₀ sound calls d w os)
      (tended : d.Tended after)
      (alone : sound → after.refusesBytes = none ∧ ∀ o ∈ os, after.body o.id = d.body o.id) :
      Chronicle d₀ w₀ sound calls after w os

/-- The openings of a run that nobody disturbs, after those before it. -/
def openings (d : Disk) (w : Rolling) (os : List Opening) : List Call → List Opening
  | [] => os
  | c :: rest => openings (c.run d w).disk (c.run d w).writer (noted d w os c) rest

private theorem Chronicle.course {d₀ d : Disk} {w₀ w : Rolling} {sound : Prop} {calls : List Call}
    {os : List Opening} (h : Chronicle d₀ w₀ sound calls d w os) (more : List Call) :
    Chronicle d₀ w₀ sound (calls ++ more) (course d w more).disk (course d w more).writer
      (openings d w os more) := by
  induction more generalizing calls d w os with
  | nil =>
    rw [List.append_nil]
    exact h
  | cons c rest ih =>
    have hrest := ih (h.call c)
    rw [List.append_assoc] at hrest
    exact hrest

/-- What is known of a writer and its openings at any point of a run. -/
structure Chronicled (zone : Zone) (calls : List Call) (d : Disk) (w : Rolling)
    (os : List Opening) : Prop where
  fixed : w.zone = zone
  last : ∀ f, w.current = some f → ∃ o, os.getLast? = some o ∧ o.id = f.id
  ids : os.Pairwise fun o o' => o.id < o'.id
  bound : ∀ o ∈ os, o.id < d.files.length
  events : (os.flatMap (·.events)).Sublist (writes calls)
  times : ∀ o ∈ os, ∃ e ∈ writes calls, e.time = o.time
  stands : ∀ o ∈ os, ∃ folder n, o.Stands zone d folder n

variable {d₀ d d' d₁ : Disk} {w₀ w w' : Rolling} {zone : Zone} {calls calls' : List Call}
  {os front : List Opening} {o : Opening} {e : Event} {f : OpenFile} {sound : Prop}

private theorem writes_append (calls more : List Call) :
    writes (calls ++ more) = writes calls ++ writes more := List.filterMap_append

/-- What goes by without an opening leaves all of this. -/
theorem Chronicled.kept (h : Chronicled zone calls d w os) (hk : d.Retains d')
    (hlength : d.files.length ≤ d'.files.length) (hzone : w'.zone = w.zone)
    (hcurrent : ∀ f, w'.current = some f → ∃ g, w.current = some g ∧ g.id = f.id)
    (hcalls : (writes calls).Sublist (writes calls')) : Chronicled zone calls' d' w' os := by
  refine ⟨hzone.trans h.fixed, fun f hf => ?_, h.ids, fun o ho => (h.bound o ho).trans_le hlength,
    h.events.trans hcalls, fun o ho => ?_, fun o ho => ?_⟩
  · obtain ⟨g, hg, hid⟩ := hcurrent f hf
    rw [← hid]
    exact h.last g hg
  · obtain ⟨e, he, htime⟩ := h.times o ho
    exact ⟨e, hcalls.subset he, htime⟩
  · obtain ⟨folder, n, hstands⟩ := h.stands o ho
    exact ⟨folder, n, hstands.of_retains hk⟩

/-- All that an event can come to, with the openings after it. -/
theorem noted_cases (d : Disk) (w : Rolling) (os : List Opening) (e : Event) :
    (∃ f waiting, w.current = some f ∧ f.weekday = e.time.weekday w.zone ∧
        (w.write d e).writer = { w with current := some { f with waiting } } ∧
        noted d w os (.write e) = os.dropLast ++ (os.getLast?.map (·.hand e)).toList) ∨
      (∃ d₁ f waiting, w.needsFile e = true ∧ w.target.openFile d w.zone e.time = (d₁, .ok f) ∧
        (w.write d e).writer = { w with current := some { f with waiting } } ∧
        d₁.Retains (w.write d e).disk ∧ d₁.files.length ≤ (w.write d e).disk.files.length ∧
        noted d w os (.write e) = os ++ [⟨w.target, e.time, f.id, f.path, [e]⟩]) ∨
      ∃ d₁ error, w.needsFile e = true ∧ w.target.openFile d w.zone e.time = (d₁, .error error) ∧
        w.write d e = ⟨d₁, w, [], .error error⟩ ∧ noted d w os (.write e) = os := by
  cases hn : w.needsFile e with
  | false =>
    obtain ⟨f, hf, hday, hwrite⟩ := write_of_kept hn
    obtain ⟨waiting, hsame⟩ := (OpenFile.served_putAll f d ((e.pieces w.zone).map Text.encode)).same
    refine .inl ⟨f, waiting, hf, hday, by simp [hwrite, writeTo, hsame], ?_⟩
    rw [noted, hn]
    rfl
  | true =>
    rcases write_shape d w e with ⟨f, waiting, -, hkept, -⟩ |
      ⟨d₁, f, waiting, ho, hwriter, hspares⟩ | ⟨d₁, error, ho, hrun⟩
    · rw [hn] at hkept
      cases hkept
    · refine .inr (.inl ⟨d₁, f, waiting, rfl, ho, hwriter, hspares.keeps.retains, hspares.length,
        ?_⟩)
      rw [noted, hn, ho]
      rfl
    · refine .inr (.inr ⟨d₁, error, rfl, ho, hrun, ?_⟩)
      rw [noted, hn, ho]
      rfl

private theorem forall_handed {P : Opening → Prop} (hP : ∀ o, P o → P (o.hand e))
    (h : ∀ a ∈ front ++ [o], P a) : ∀ a ∈ front ++ [o.hand e], P a := by
  intro a ha
  rcases List.mem_append.mp ha with ha | ha
  · exact h a (List.mem_append_left _ ha)
  · rw [List.mem_singleton.mp ha]
    exact hP o (h o (by simp))

private theorem pairwise_handed {R : Opening → Opening → Prop}
    (hR : ∀ a b, R a b → R a (b.hand e)) (h : (front ++ [o]).Pairwise R) :
    (front ++ [o.hand e]).Pairwise R := by
  obtain ⟨hfront, -, hlast⟩ := List.pairwise_append.mp h
  refine List.pairwise_append.mpr ⟨hfront, List.pairwise_singleton _ _, fun a ha b hb => ?_⟩
  rw [List.mem_singleton.mp hb]
  exact hR a o (hlast a ha o (by simp))

private theorem Chronicled.handed (h : Chronicled zone calls d w (front ++ [o])) (e : Event) :
    Chronicled zone (calls ++ [.write e]) d w (front ++ [o.hand e]) := by
  have hwrites : writes (calls ++ [.write e]) = writes calls ++ [e] := writes_append _ _
  refine ⟨h.fixed, fun f hf => ?_, pairwise_handed (fun _ _ => id) h.ids,
    forall_handed (fun _ => id) h.bound, ?_, forall_handed (fun _ => id) fun a ha => ?_,
    forall_handed (fun a ⟨folder, n, ha⟩ => ⟨folder, n, ha.path, ha.name, ha.place, ha.entry,
      ha.taken⟩) h.stands⟩
  · obtain ⟨a, ha, hid⟩ := h.last f hf
    rw [List.getLast?_concat, Option.some.injEq] at ha
    exact ⟨o.hand e, List.getLast?_concat .., by rw [← hid, ← ha]; rfl⟩
  · have hevents := h.events.append (List.Sublist.refl [e])
    rw [hwrites]
    simpa [Opening.hand] using hevents
  · obtain ⟨e', he', htime⟩ := h.times a ha
    exact ⟨e', by rw [hwrites]; exact List.mem_append_left _ he', htime⟩

private theorem Chronicled.opened (h : Chronicled zone calls d w os)
    (ho : w.target.openFile d w.zone e.time = (d₁, .ok f)) (hk : d₁.Retains d')
    (hlength : d₁.files.length ≤ d'.files.length) {waiting : Array UInt8}
    (hwriter : w' = { w with current := some { f with waiting } }) :
    Chronicled zone (calls ++ [.write e]) d' w'
      (os ++ [⟨w.target, e.time, f.id, f.path, [e]⟩]) := by
  obtain ⟨made, folder, n, hmade, hafter, hstands, -, -⟩ := Target.stands_of_openFile ho [e]
  obtain ⟨-, hfiles, ⟨suffix, hnew⟩, -⟩ := Target.openFile_eq_ok ho
  have hid : f.id = d.files.length := by rw [hnew]
  have hgrown : d.files.length < d₁.files.length := by simp [hfiles]
  have hwrites : writes (calls ++ [.write e]) = writes calls ++ [e] := writes_append _ _
  have hold : d.Retains d' := (hmade.trans hafter).retains.trans hk
  refine ⟨by rw [hwriter]; exact h.fixed, fun g hg => ?_, ?_, fun o hmem => ?_, ?_,
    fun o hmem => ?_, fun o hmem => ?_⟩
  · rw [hwriter] at hg
    cases hg
    exact ⟨_, List.getLast?_concat .., rfl⟩
  · refine List.pairwise_append.mpr ⟨h.ids, List.pairwise_singleton _ _, fun o hmem o' hmem' => ?_⟩
    rw [List.mem_singleton.mp hmem']
    exact (h.bound o hmem).trans_eq hid.symm
  · rcases List.mem_append.mp hmem with hmem | hmem
    · exact (h.bound o hmem).trans (hgrown.trans_le hlength)
    · rw [List.mem_singleton.mp hmem]
      exact hid.trans_lt (hgrown.trans_le hlength)
  · rw [hwrites, List.flatMap_append]
    exact h.events.append (by simp)
  · rw [hwrites]
    rcases List.mem_append.mp hmem with hmem | hmem
    · obtain ⟨e', he', htime⟩ := h.times o hmem
      exact ⟨e', List.mem_append_left _ he', htime⟩
    · rw [List.mem_singleton.mp hmem]
      exact ⟨e, by simp, rfl⟩
  · rcases List.mem_append.mp hmem with hmem | hmem
    · obtain ⟨folder, n, hstands⟩ := h.stands o hmem
      exact ⟨folder, n, hstands.of_retains hold⟩
    · rw [List.mem_singleton.mp hmem]
      rw [h.fixed] at hstands
      exact ⟨folder, n, hstands.of_retains hk⟩

private theorem held_of_call {c : Call} (hc : ∀ e, c ≠ .write e)
    (hf : (c.run d w).writer.current = some f) : ∃ g, w.current = some g ∧ g.id = f.id := by
  have hclose (w : Rolling) : (w.close d).writer.current = none := by
    unfold close
    split
    · assumption
    · rfl
  cases c with
  | write e => exact absurd rfl (hc e)
  | flush =>
    have hrun : (w.flush d).writer.current = some f := hf
    unfold flush at hrun
    split at hrun
    · exact ⟨f, hrun, rfl⟩
    · next g hg =>
      obtain ⟨waiting, hsame⟩ := (OpenFile.served_drain g d).same
      simp only [hsame, Option.some.injEq] at hrun
      exact ⟨g, hg, by rw [← hrun]⟩
  | close =>
    have hopen : (w.close d).writer.current = some f := hf
    rw [hclose] at hopen
    cases hopen
  | redirect target =>
    have hopen : (({ w with target } : Rolling).close d).writer.current = some f := hf
    rw [hclose] at hopen
    cases hopen

private theorem Chronicled.call (h : Chronicled zone calls d w os) (c : Call) :
    Chronicled zone (calls ++ [c]) (c.run d w).disk (c.run d w).writer (noted d w os c) := by
  obtain ⟨hspares, -, hzone⟩ := careful_call d w c
  have hcalls : (writes calls).Sublist (writes (calls ++ [c])) := by
    rw [writes_append]
    exact List.sublist_append_left _ _
  have hkept := fun hcurrent =>
    h.kept hspares.keeps.retains hspares.length hzone hcurrent hcalls
  cases c with
  | flush => exact hkept fun f hf => held_of_call (by simp) hf
  | close => exact hkept fun f hf => held_of_call (by simp) hf
  | redirect target => exact hkept fun f hf => held_of_call (by simp) hf
  | write e =>
    rcases noted_cases d w os e with ⟨f, waiting, hf, -, hwriter, hnoted⟩ |
      ⟨d₁, f, waiting, -, ho, hwriter, hretains, hlength, hnoted⟩ | ⟨d₁, error, -, -, hrun, hnoted⟩
    · obtain ⟨o, ho, -⟩ := h.last f hf
      obtain ⟨front, rfl⟩ := List.getLast?_eq_some_iff.mp ho
      rw [hnoted, List.dropLast_concat, ho]
      refine (h.handed e).kept hspares.keeps.retains hspares.length hzone (fun g hg => ?_) (.refl _)
      rw [show ((Call.write e).run d w).writer = _ from hwriter] at hg
      cases hg
      exact ⟨f, hf, rfl⟩
    · rw [hnoted]
      exact h.opened ho hretains hlength hwriter
    · rw [hnoted]
      refine hkept fun g hg => ⟨g, ?_, rfl⟩
      rwa [show ((Call.write e).run d w).writer = w from congrArg Rolled.writer hrun] at hg

/-- At any point of a run of a new writer this is known. -/
theorem chronicled (h : Chronicle d₀ w₀ sound calls d w os) (hnew : w₀.current = none) :
    Chronicled w₀.zone calls d w os := by
  induction h with
  | start =>
    refine ⟨rfl, fun f hf => ?_, .nil, by simp, .slnil, by simp, by simp⟩
    rw [hnew] at hf
    cases hf
  | call _ c ih => exact ih.call c
  | others _ tended _ ih =>
    exact ih.kept tended.retains tended.length rfl (fun f hf => ⟨f, hf, rfl⟩) (.refl _)

/-- Of files in one folder under one stem the later has the later name. -/
def Follows (d : Disk) (o o' : Opening) : Prop :=
  o.target.stem = o'.target.stem → ∀ folder, d.folder? o.path = some folder →
    d.folder? o'.path = some folder → o.name < o'.name

private theorem pairwise_follows (h : Chronicled zone calls d w os) (hk : d.Retains d')
    (hnames : os.Pairwise (Follows d)) : os.Pairwise (Follows d') := by
  refine hnames.imp_of_mem fun {o o'} ho ho' hfollows hstem folder hfolder hfolder' => ?_
  obtain ⟨place, n, hstands⟩ := h.stands o ho
  obtain ⟨place', n', hstands'⟩ := h.stands o' ho'
  have hsame := Disk.folder?_of_retains hk hstands.place
  have hsame' := Disk.folder?_of_retains hk hstands'.place
  obtain rfl : place = folder := Option.some.inj (hsame.symm.trans hfolder)
  obtain rfl : place' = place := Option.some.inj (hsame'.symm.trans hfolder')
  exact hfollows hstem place' hstands.place hstands'.place

private theorem Chronicled.follows (h : Chronicled zone calls d w os) (hzone : zone.InRange)
    (hsince : ∀ a ∈ writes (calls ++ [.write e]), a.time.SinceEpoch)
    (hordered : (writes (calls ++ [.write e])).Pairwise fun a b => a.time.nanos ≤ b.time.nanos)
    (ho : w.target.openFile d w.zone e.time = (d₁, .ok f)) (hk : d₁.Retains d')
    (hfew : ∀ folder, (d'.listing folder).length < 2 ^ 63) :
    ∀ o ∈ os, Follows d' o ⟨w.target, e.time, f.id, f.path, [e]⟩ := by
  intro o hmem hstem folder hfolder hfolder'
  rw [h.fixed] at ho
  obtain ⟨place, n, hstands⟩ := h.stands o hmem
  obtain ⟨made, place', n', hmade, hafter, hstands', htaken', hfree⟩ :=
    Target.stands_of_openFile ho [e]
  have hrest : made.Retains d' := hafter.retains.trans hk
  have hplace := Disk.folder?_of_retains (hmade.retains.trans hrest) hstands.place
  obtain rfl : place = folder := Option.some.inj (hplace.symm.trans hfolder)
  have hplace' := Disk.folder?_of_retains hk hstands'.place
  obtain rfl : place' = place := Option.some.inj (hplace'.symm.trans hfolder')
  have hwrites : writes (calls ++ [.write e]) = writes calls ++ [e] := writes_append _ _
  rw [hwrites] at hsince hordered
  obtain ⟨a, ha, htime⟩ := h.times o hmem
  have hle := (List.pairwise_append.mp hordered).2.2 a ha e (by simp)
  have hfirst := hsince a (List.mem_append_left _ ha)
  rw [htime] at hle hfirst
  rw [hstands.name, hstands'.name, hstem]
  rw [← hstem] at htaken' hfree ⊢
  -- The search saw the disk before the file was made, when its name was still free.
  have hfewer := (hrest.length_listing_le place').trans_lt (hfew place')
  exact Target.logName_lt_of_free hzone hfirst (hsince e (by simp)) hle hfewer
    (hstands.taken.of_retains hmade.retains) htaken' hfree

private theorem follows_chronicle (h : Chronicle d₀ w₀ sound calls d w os)
    (hnew : w₀.current = none) (hzone : w₀.zone.InRange)
    (hsince : ∀ a ∈ writes calls, a.time.SinceEpoch)
    (hordered : (writes calls).Pairwise fun a b => a.time.nanos ≤ b.time.nanos)
    (hfew : ∀ folder, (d.listing folder).length < 2 ^ 63) : os.Pairwise (Follows d) := by
  -- Induction on the run. Times never go back, and no folder has names enough for a suffix to
  -- wrap.
  induction h with
  | start => exact .nil
  | @call calls d w os before c ih =>
    have hknown := chronicled before hnew
    -- The folders are only bounded at the end of the run; as nothing is removed they were smaller.
    have hretains := (careful_call d w c).spares.keeps.retains
    have hcalls : (writes calls).Sublist (writes (calls ++ [c])) := by
      rw [writes_append]
      exact List.sublist_append_left _ _
    have hpairs := pairwise_follows hknown hretains
      (ih (fun a ha => hsince a (hcalls.subset ha)) (hordered.sublist hcalls)
        fun folder => (hretains.length_listing_le folder).trans_lt (hfew folder))
    cases c with
    | flush => exact hpairs
    | close => exact hpairs
    | redirect target => exact hpairs
    | write e =>
      rcases noted_cases d w os e with ⟨f, waiting, hf, -, -, hnoted⟩ |
        ⟨d₁, f, waiting, -, ho, -, hmore, -, hnoted⟩ | ⟨d₁, error, -, -, -, hnoted⟩
      · obtain ⟨o, ho, -⟩ := hknown.last f hf
        obtain ⟨front, rfl⟩ := List.getLast?_eq_some_iff.mp ho
        rw [hnoted, List.dropLast_concat, ho]
        exact pairwise_handed (fun _ _ => id) hpairs
      · rw [hnoted]
        refine List.pairwise_append.mpr
          ⟨hpairs, List.pairwise_singleton _ _, fun o hmem o' hmem' => ?_⟩
        rw [List.mem_singleton.mp hmem']
        exact hknown.follows hzone hsince hordered ho hmore hfew o hmem
      · rw [hnoted]
        exact hpairs
  | others before tended _ ih =>
    refine pairwise_follows (chronicled before hnew) tended.retains (ih hsince hordered ?_)
    exact fun folder => (tended.retains.length_listing_le folder).trans_lt (hfew folder)

/-- On a disk that takes bytes every file has the lines of its events. -/
structure Filled (d : Disk) (w : Rolling) (os : List Opening) : Prop where
  ready : Ready d w
  contents : ∀ o ∈ os, contents d w o.id = Text.encode (o.events.flatMap (·.lines w.zone))

private theorem Filled.settled {r : Rolled} (h : Filled d w os) (hs : Settled d w r)
    (hzone : r.writer.zone = w.zone) : Filled r.disk r.writer os := by
  refine ⟨hs.ready, fun o ho => ?_⟩
  rw [hs.contents, h.contents o ho, hzone]

private theorem Filled.write (h : Filled d w os) (hknown : Chronicled zone calls d w os)
    (e : Event) : Filled (w.write d e).disk (w.write d e).writer (noted d w os (.write e)) := by
  rcases noted_cases d w os e with ⟨f, -, hf, hday, -, hnoted⟩ |
    ⟨d₁, f, -, hneeds, ho, -, -, -, hnoted⟩ | ⟨d₁, error, -, ho, hrun, hnoted⟩
  · obtain ⟨-, waiting, ht⟩ := write_took h.ready hf hday
    obtain ⟨o, ho, hid⟩ := hknown.last f hf
    obtain ⟨front, rfl⟩ := List.getLast?_eq_some_iff.mp ho
    obtain ⟨-, -, hids⟩ := List.pairwise_append.mp hknown.ids
    rw [hnoted, List.dropLast_concat, ho]
    refine ⟨ht.ready, fun a ha => ?_⟩
    rw [ht.contents, ht.zone]
    rcases List.mem_append.mp ha with ha | ha
    · have hne : a.id ≠ f.id := hid ▸ (hids a ha o (by simp)).ne
      rw [if_neg hne, List.append_nil]
      exact h.contents a (List.mem_append_left _ ha)
    · obtain rfl : a = o.hand e := by simpa using ha
      have hlines : Rolling.contents d w (o.hand e).id =
          Text.encode (o.events.flatMap (·.lines w.zone)) := h.contents o (by simp)
      have hhand : (o.hand e).id = f.id := hid
      rw [hlines, if_pos hhand]
      simp [Opening.hand, Text.encode_append]
  · obtain ⟨-, ⟨waiting, ht⟩, -⟩ := write_opened h.ready hneeds ho
    obtain ⟨-, -, ⟨suffix, hnew⟩, -⟩ := Target.openFile_eq_ok ho
    have hid : f.id = d.files.length := by rw [hnew]
    rw [hnoted]
    refine ⟨ht.ready, fun a ha => ?_⟩
    rw [ht.contents, ht.zone]
    rcases List.mem_append.mp ha with ha | ha
    · have hne : a.id ≠ f.id := ((hknown.bound a ha).trans_eq hid.symm).ne
      rw [if_neg hne, List.append_nil]
      exact h.contents a ha
    · rw [List.mem_singleton.mp ha, contents_new h.ready hid.ge, if_pos rfl]
      simp
  · obtain ⟨keeps, files⟩ := Target.openFile_eq_error ho
    rw [hnoted, hrun]
    refine ⟨h.ready.of_files files keeps.refusesBytes, fun a ha => ?_⟩
    rw [contents_of_files files]
    exact h.contents a ha

private theorem filled_chronicle (h : Chronicle d₀ w₀ sound calls d w os)
    (hnew : w₀.current = none) (hsound : sound) : Filled d w os := by
  induction h with
  | start takes =>
    refine ⟨⟨takes hsound, fun f hf => ?_⟩, by simp⟩
    rw [hnew] at hf
    cases hf
  | @call calls d w os before c ih =>
    cases c with
    | write e => exact ih.write (chronicled before hnew) e
    | flush => exact ih.settled (flush_settled ih.ready).1 (careful_flush d w).zone
    | close => exact ih.settled (close_settled ih.ready).1 (careful_close d w).zone
    | redirect target =>
      exact ih.settled (redirect_settled ih.ready target).1 (careful_redirect d w target).zone
  | @others calls d w os after before tended alone ih =>
    obtain ⟨takes, hbody⟩ := alone hsound
    refine ⟨⟨takes, fun f hf => (ih.ready.isOpen f hf).trans_le tended.length⟩, fun o ho => ?_⟩
    rw [← ih.contents o ho, contents, contents, hbody o ho]

private theorem Filled.closed (h : Filled d w os) (ho : o ∈ os) :
    ((w.close d).disk.body o.id).bytes = Text.encode (o.events.flatMap (·.lines w.zone)) := by
  obtain ⟨hs, hwriter⟩ := close_settled h.ready
  rw [← h.contents o ho, ← hs.contents, hwriter]
  simp [Rolling.contents, waitingFor]

private theorem names_lt (hnames : os.Pairwise (Follows d)) (folder : Location) (stem : String) :
    (os.filter (·.isIn d folder stem)).Pairwise fun o o' => o.name < o'.name := by
  refine (hnames.filter _).imp_of_mem fun {o o'} ho ho' hfollows => ?_
  obtain ⟨-, hin⟩ := List.mem_filter.mp ho
  obtain ⟨-, hin'⟩ := List.mem_filter.mp ho'
  simp only [Opening.isIn, decide_eq_true_eq] at hin hin'
  exact hfollows (hin.1.trans hin'.1.symm) folder hin.2 hin'.2

private theorem eq_of_sorted (hnames : os.Pairwise (Follows d)) {folder : Location}
    {stem : String} {listed : List Opening} (hperm : listed.Perm (os.filter (·.isIn d folder stem)))
    (hsorted : listed.Pairwise fun o o' => o.name ≤ o'.name) :
    listed = os.filter (·.isIn d folder stem) := by
  have hgroup := names_lt hnames folder stem
  have hdistinct : ((os.filter (·.isIn d folder stem)).map Opening.name).Nodup := by
    refine List.pairwise_map.mpr (hgroup.imp fun hlt heq => ?_)
    rw [heq] at hlt
    exact List.lt_irrefl _ hlt
  refine List.Perm.eq_of_pairwise (fun a b ha hb hle hge => ?_) hsorted
    (hgroup.imp List.le_of_lt) hperm
  exact List.inj_on_of_nodup_map hdistinct (hperm.mem_iff.mp ha) hb (List.le_antisymm hle hge)

/-- A run of a new writer among others that remove nothing, of events since the start of 1970 whose
times never go back, in folders of less than `2 ^ 63` names. Every file that it opens stands in its
folder under its own name; those of one target have one folder; and of those in one folder under
one stem each has a greater name than all that were opened before it. So if these are sorted by
their names, they hold the lines of their events in the order in which they were written. -/
theorem later_files_have_later_names {target : Target}
    (h : Chronicle d₀ { target, zone } sound calls d w os) (hzone : zone.InRange)
    (hsince : ∀ e ∈ writes calls, e.time.SinceEpoch)
    (hordered : (writes calls).Pairwise fun a b => a.time.nanos ≤ b.time.nanos)
    (hfew : ∀ folder, (d.listing folder).length < 2 ^ 63) :
    (∀ o ∈ os, (∃ suffix, o.path = o.target.filePath (o.time.date zone) suffix) ∧
      ∃ folder, d.folder? o.path = some folder ∧
        d.entry? (folder ++ [o.name]) = some (.file o.id)) ∧
    (∀ o ∈ os, ∀ o' ∈ os, o.target = o'.target → d.folder? o.path = d.folder? o'.path) ∧
    os.Pairwise (fun o o' => o.target.stem = o'.target.stem → ∀ folder,
      d.folder? o.path = some folder → d.folder? o'.path = some folder → o.name < o'.name) ∧
    ∀ (folder : Location) (stem : String) (listed : List Opening),
      listed.Perm (os.filter (·.isIn d folder stem)) →
      listed.Pairwise (fun o o' => o.name ≤ o'.name) →
        (listed.flatMap (·.events)).Sublist (writes calls) ∧
        (sound → listed.flatMap (fun o => ((w.close d).disk.body o.id).bytes) =
          Text.encode ((listed.flatMap (·.events)).flatMap (·.lines zone))) := by
  have hknown := chronicled h rfl
  have hnames := follows_chronicle h rfl hzone hsince hordered hfew
  refine ⟨fun o ho => ?_, fun o ho o' ho' hsame => ?_, hnames,
    fun folder stem listed hperm hsorted => ?_⟩
  · obtain ⟨folder, n, hstands⟩ := hknown.stands o ho
    exact ⟨hstands.path, folder, hstands.place, hstands.entry⟩
  · obtain ⟨folder, n, hstands⟩ := hknown.stands o ho
    obtain ⟨folder', n', hstands'⟩ := hknown.stands o' ho'
    have hplace := hstands.place
    have hplace' := hstands'.place
    obtain ⟨suffix, hpath⟩ := hstands.path
    obtain ⟨suffix', hpath'⟩ := hstands'.path
    rw [hpath, hsame] at hplace
    rw [hpath'] at hplace'
    rw [hstands.place, hstands'.place, Target.folder_unique hplace hplace']
  · have hlisted := eq_of_sorted hnames hperm hsorted
    have hsub : listed.Sublist os := hlisted ▸ List.filter_sublist
    refine ⟨(hsub.flatMap _).trans hknown.events, fun hsound => ?_⟩
    have hfilled := filled_chronicle h rfl hsound
    have hfixed : w.zone = zone := hknown.fixed
    calc listed.flatMap (fun o => ((w.close d).disk.body o.id).bytes)
        = listed.flatMap (fun o => Text.encode (o.events.flatMap (·.lines zone))) :=
          List.flatMap_congr fun o ho => hfixed ▸ hfilled.closed (hsub.subset ho)
      _ = Text.encode ((listed.flatMap (·.events)).flatMap (·.lines zone)) := by
          simp only [Text.encode, List.flatMap_assoc]

private def shelf : Target := ⟨⟨Text.encode "logs".toList⟩, "app"⟩

private def numbered (sequence : UInt64) (nanos : Int) : Event :=
  ⟨sequence, .info, ⟨nanos⟩, "svc", "up"⟩

private def threeFiles : List Call :=
  [.write (numbered 0 1704103200000000000), .close, .write (numbered 1 1704103200000999999), .close,
    .write (numbered 2 1704103200001000000)]

private def takenBefore : Disk :=
  (({ files := [{}] } : Disk).place [shelf.dir.bytes] .directory).place
    [shelf.dir.bytes, Text.encode (shelf.fileName ⟨2024, 1, 1⟩ 0x18CC4774500)] (.file 0)

private def shelved : List Opening := openings takenBefore { target := shelf } [] threeFiles

private def threeFilesRun : Course := course takenBefore { target := shelf } threeFiles

/-- The third file is counted up past the two before it, as its time gives the name of the first. -/
theorem later_files_have_later_names_of_three :
    shelved.map Opening.name =
        [Text.encode (shelf.fileName ⟨2024, 1, 1⟩ 0x18CC4774501),
          Text.encode (shelf.fileName ⟨2024, 1, 1⟩ 0x18CC4774502),
          Text.encode (shelf.fileName ⟨2024, 1, 1⟩ 0x18CC4774503)] ∧
      shelved.Pairwise (fun o o' => o.name < o'.name) ∧
      shelved.flatMap (fun o =>
          ((threeFilesRun.writer.close threeFilesRun.disk).disk.body o.id).bytes) =
        Text.encode ((writes threeFiles).flatMap (·.lines {})) := by
  have hrun : Chronicle takenBefore { target := shelf } True threeFiles threeFilesRun.disk
      threeFilesRun.writer shelved := (Chronicle.start fun _ => rfl).course threeFiles
  have hsize : threeFilesRun.disk.entries.size = 5 := by cbv
  have hfew (folder : Location) : (threeFilesRun.disk.listing folder).length < 2 ^ 63 :=
    (Disk.length_listing_le_size _ folder).trans_lt (by rw [hsize]; decide)
  obtain ⟨-, -, hfollows, hsorted⟩ := later_files_have_later_names hrun (by decide)
    (by decide) (by decide) hfew
  have hin : shelved.filter (·.isIn threeFilesRun.disk [shelf.dir.bytes] "app") = shelved := by cbv
  have hnames := names_lt hfollows [shelf.dir.bytes] "app"
  rw [hin] at hnames
  obtain ⟨-, hbytes⟩ := hsorted [shelf.dir.bytes] "app" shelved (by rw [hin])
    (hnames.imp List.le_of_lt)
  have hevents : shelved.flatMap (·.events) = writes threeFiles := by cbv
  rw [hevents] at hbytes
  exact ⟨by cbv, hnames, hbytes trivial⟩

end Rolling

end EventLog
