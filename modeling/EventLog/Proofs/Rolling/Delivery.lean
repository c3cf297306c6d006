import EventLog.Proofs.Rolling.Shares

/-! Where events are delivered. An event goes to a file of the target that is set when it is
written, and to that file alone. -/
namespace EventLog

/-- An event and the target that it is meant for. -/
structure Addressed where
  target : Target
  event : Event
  deriving DecidableEq, Repr

namespace Rolling

def getsFile (d : Disk) (w : Rolling) (e : Event) : Bool :=
  !w.needsFile e || (w.target.openFile d w.zone e.time).2.isOk

/-- From `d` and `w` on, the events that went to each file. A file that got any stands in the
directory of their target, under a name that starts with the stem of that. -/
structure Delivered (d : Disk) (w : Rolling) (d' : Disk) (w' : Rolling)
    (filed : List (List Addressed)) : Prop where
  shared : Shared d w d' w' (filed.map (·.map Addressed.event))
  placed : ∀ k, ∀ a ∈ filed.getD k [], ∃ date suffix,
    d'.find (a.target.filePath date suffix) = .ok (.file k)
  current : ∀ f, w'.current = some f → ∃ date suffix,
    d'.find (w'.target.filePath date suffix) = .ok (.file f.id)

variable {d d' after : Disk} {w w' next : Rolling} {filed : List (List Addressed)}

theorem Delivered.start (h : Ready d w) (hc : w.current = none) :
    Delivered d w d w (List.replicate d.files.length []) := by
  refine ⟨?_, fun k a ha => ?_, fun f hf => ?_⟩
  · rw [List.map_replicate]
    exact .start h
  · rw [List.getD_eq_getElem?_getD, List.getElem?_getD_replicate_default_eq] at ha
    cases ha
  · rw [hc] at hf
    cases hf

/-- New entries move no event. -/
theorem Delivered.grown (h : Delivered d w d' w' filed) (keeps : d'.Keeps after)
    (files : after.files = d'.files) : Delivered d w after w' filed := by
  refine ⟨h.shared.weather files keeps.refusesBytes, fun k a ha => ?_, fun f hf => ?_⟩
  · obtain ⟨date, suffix, hfind⟩ := h.placed k a ha
    exact ⟨date, suffix, Disk.find_of_keeps keeps hfind⟩
  · obtain ⟨date, suffix, hfind⟩ := h.current f hf
    exact ⟨date, suffix, Disk.find_of_keeps keeps hfind⟩

/-- Where no file is open another writer may take over, with any target. -/
theorem Delivered.handOver (h : Delivered d w d' w' filed) (hc : w'.current = none)
    (hn : next.current = none) (hzone : next.zone = w'.zone) : Delivered d w d' next filed := by
  have hnone {f : OpenFile} (hf : next.current = some f) : False := by
    rw [hn] at hf
    cases hf
  refine ⟨⟨⟨h.shared.ready.takesBytes, fun f hf => (hnone hf).elim⟩, hzone.trans h.shared.zone,
    h.shared.length, fun k => ?_, fun f hf => (hnone hf).elim⟩, h.placed,
    fun f hf => (hnone hf).elim⟩
  rw [← h.shared.contents k, contents, contents, waitingFor, waitingFor, hn, hc]

private theorem Delivered.settled {r : Rolled} (h : Delivered d w d' w' filed)
    (hs : Settled d' w' r) (shared : Shared d w r.disk r.writer (filed.map (·.map Addressed.event)))
    (hcurrent : ∀ f, r.writer.current = some f →
      r.writer.target = w'.target ∧ ∃ g, w'.current = some g ∧ g.id = f.id) :
    Delivered d w r.disk r.writer filed := by
  refine ⟨shared, fun k a ha => ?_, fun f hf => ?_⟩
  · obtain ⟨date, suffix, hfind⟩ := h.placed k a ha
    exact ⟨date, suffix, Disk.find_of_keeps hs.keeps hfind⟩
  · obtain ⟨htarget, g, hg, hid⟩ := hcurrent f hf
    obtain ⟨date, suffix, hfind⟩ := h.current g hg
    rw [htarget, ← hid]
    exact ⟨date, suffix, Disk.find_of_keeps hs.keeps hfind⟩

theorem Delivered.flush (h : Delivered d w d' w' filed) :
    Delivered d w (w'.flush d').disk (w'.flush d').writer filed := by
  obtain ⟨hs, hw⟩ := flush_settled h.shared.ready
  refine h.settled hs h.shared.flush fun f hf => ?_
  rw [hw] at hf ⊢
  obtain ⟨g, hg, rfl⟩ := Option.map_eq_some_iff.mp hf
  exact ⟨rfl, g, hg, rfl⟩

theorem Delivered.close (h : Delivered d w d' w' filed) :
    Delivered d w (w'.close d').disk (w'.close d').writer filed := by
  obtain ⟨hs, hw⟩ := close_settled h.shared.ready
  refine h.settled hs h.shared.close fun f hf => ?_
  rw [hw] at hf
  cases hf

theorem Delivered.redirect (h : Delivered d w d' w' filed) (target : Target) :
    Delivered d w (w'.redirect d' target).disk (w'.redirect d' target).writer filed := by
  obtain ⟨hs, hw⟩ := redirect_settled h.shared.ready target
  refine h.settled hs (h.shared.redirect target) fun f hf => ?_
  rw [hw] at hf
  cases hf

private theorem Delivered.took {e : Event} {f : OpenFile} {waiting : Array UInt8}
    (h : Delivered d w d' w' filed) (hf : w'.current = some f)
    (hlength : (w'.write d' e).disk.files.length = d'.files.length)
    (ht : Took d' w' e (w'.write d' e) { f with waiting }) :
    Delivered d w (w'.write d' e).disk (w'.write d' e).writer
      (filed.modify f.id (· ++ [⟨w'.target, e⟩])) := by
  obtain ⟨date, suffix, hfind⟩ := h.current f hf
  have hfound := Disk.find_of_keeps ht.keeps hfind
  refine ⟨?_, fun k a ha => ?_, fun g hg => ?_⟩
  · rw [map_modify_snoc]
    exact h.shared.took hf hlength ht
  · rcases mem_getD_modify ha with hold | ⟨rfl, rfl⟩
    · obtain ⟨date, suffix, hfind⟩ := h.placed k a hold
      exact ⟨date, suffix, Disk.find_of_keeps ht.keeps hfind⟩
    · exact ⟨date, suffix, hfound⟩
  · rw [ht.writer] at hg ⊢
    cases hg
    exact ⟨date, suffix, hfound⟩

private theorem Delivered.opened {d₁ : Disk} {e : Event} {f : OpenFile} {waiting : Array UInt8}
    (h : Delivered d w d' w' filed)
    (ho : w'.target.openFile d' w'.zone e.time = (d₁, .ok f))
    (hlength : (w'.write d' e).disk.files.length = d'.files.length + 1)
    (ht : Took d' w' e (w'.write d' e) { f with waiting })
    (hfind : (w'.write d' e).disk.find f.path = .ok (.file f.id)) :
    Delivered d w (w'.write d' e).disk (w'.write d' e).writer
      (filed ++ [[⟨w'.target, e⟩]]) := by
  obtain ⟨-, -, ⟨suffix, hnew⟩, -⟩ := Target.openFile_eq_ok ho
  have hid : f.id = d'.files.length := by rw [hnew]
  have hpath : f.path = w'.target.filePath (e.time.date w'.zone) suffix := by rw [hnew]
  rw [hpath] at hfind
  refine ⟨?_, fun k a ha => ?_, fun g hg => ?_⟩
  · rw [List.map_append]
    exact h.shared.opened hid hlength ht
  · rcases mem_getD_snoc ha with hold | ⟨hk, rfl⟩
    · obtain ⟨date, suffix, hfind⟩ := h.placed k a hold
      exact ⟨date, suffix, Disk.find_of_keeps ht.keeps hfind⟩
    · have hcount : filed.length = d'.files.length := by
        rw [← h.shared.length, List.length_map]
      rw [hk, hcount, ← hid]
      exact ⟨_, suffix, hfind⟩
  · rw [ht.writer] at hg ⊢
    cases hg
    exact ⟨_, suffix, hfind⟩

/-- An event that gets its file goes to one of the target that is set, after all before it. -/
theorem Delivered.write (h : Delivered d w d' w' filed) {e : Event}
    (hgets : w'.getsFile d' e = true) :
    (w'.write d' e).result = .ok () ∧ (w'.write d' e).aside = [] ∧
      (w'.write d' e).writer.target = w'.target ∧
      ∃ filed', Delivered d w (w'.write d' e).disk (w'.write d' e).writer filed' ∧
        filed'.flatten = filed.flatten ++ [⟨w'.target, e⟩] := by
  rcases write_cases h.shared.ready e with ⟨f, waiting, hf, hlength, ht⟩ |
    ⟨d₁, f, waiting, -, ho, hlength, ht, hfind⟩ | ⟨d₁, error, hn, ho, -⟩
  · have hid : f.id < filed.length := by
      rw [← List.length_map (·.map Addressed.event), h.shared.length]
      exact h.shared.ready.isOpen f hf
    refine ⟨ht.result, ht.aside, ht.target, _, h.took hf hlength ht, ?_⟩
    exact flatten_modify_snoc hid (h.shared.later_of_map hf) _
  · exact ⟨ht.result, ht.aside, ht.target, _, h.opened ho hlength ht hfind, by simp⟩
  · simp [getsFile, hn, ho, Except.isOk, Except.toBool] at hgets

end Rolling

end EventLog
