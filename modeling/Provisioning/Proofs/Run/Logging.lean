import Mathlib.Data.List.Forall2
import Provisioning.Proofs.Run.Preview

/-! # What a run logs

On a machine that logs nothing itself, a run logs one block of events for each step it comes to. The block
tells how far the step got: the announcement always, the command if its directory is there, and a complaint
if the command ended badly. Only the last block may hold an error, and then nothing comes after it. -/
namespace Provisioning

/-- A failure that a command gave by its ending. -/
def Failure.IsByEnding : Failure → Prop
  | .stepFailed _ _ | .tableFailed _ _ _ => True
  | _ => False

variable {σ : Type}

/-! ## One step -/

namespace Step

variable {host : Host σ} {s : σ} {step : Step} {status : ExitStatus} {e : Event} {block : List Event}

/-- The event that tells of a bad ending: an error if it stops the run, and a warning otherwise. -/
inductive Complains (step : Step) (status : ExitStatus) : Event → Prop
  | fatal : step.onFailure.IsFatal →
      Complains step status ⟨.error, .provisioner, step.label ++ " failed (" ++ status.display ++ ")"⟩
  | assumed : step.onFailure = .assumeExists → Complains step status ⟨.warn, .provisioner,
      step.label ++ " failed (" ++ status.display ++ ")" ++ "; assuming the resource already exists"⟩
  | continued {cleanup : Command} : step.onFailure = .continueAndRemove cleanup →
      Complains step status
        ⟨.warn, .provisioner, step.label ++ " failed (" ++ status.display ++ ")" ++ "; continuing"⟩

/-- What is logged of a step that a run comes to in some state. -/
inductive Records (host : Host σ) (s : σ) (step : Step) : List Event → Prop
  | lacking : step.LacksDirectory host s → Records host s step step.announcement
  | notStarted {cause : SystemError} : ¬ step.LacksDirectory host s → step.reply host s = .error cause →
      Records host s step step.preamble
  | succeeded {status : ExitStatus} : ¬ step.LacksDirectory host s → step.reply host s = .ok status →
      status.code = some 0 → Records host s step step.preamble
  | complained {status : ExitStatus} {e : Event} : ¬ step.LacksDirectory host s →
      step.reply host s = .ok status → status.code ≠ some 0 → step.Complains status e →
      Records host s step (step.preamble ++ [e])

theorem Complains.level (h : step.Complains status e) :
    (step.onFailure.IsFatal ∧ e.level = .error) ∨ (¬ step.onFailure.IsFatal ∧ e.level = .warn) := by
  cases h with
  | fatal hf => exact .inl ⟨hf, rfl⟩
  | assumed hf => exact .inr ⟨by simp [OnFailure.IsFatal, hf], rfl⟩
  | continued hf => exact .inr ⟨by simp [OnFailure.IsFatal, hf], rfl⟩

theorem Complains.level_eq_error_iff (h : step.Complains status e) :
    e.level = .error ↔ step.onFailure.IsFatal := by
  rcases h.level with ⟨hf, hlevel⟩ | ⟨hf, hlevel⟩ <;> simp [hf, hlevel]

theorem Complains.isAtLeast (h : step.Complains status e) : e.isAtLeast .warn = true := by
  rcases h.level with ⟨-, hlevel⟩ | ⟨-, hlevel⟩ <;> simp [Event.isAtLeast, hlevel, Level.rank]

theorem level_of_mem_announcement (h : e ∈ step.announcement) : e.level = .info := by
  simp only [announcement, List.mem_cons, Option.mem_toList, Option.map_eq_some_iff] at h
  rcases h with rfl | ⟨note, -, rfl⟩ <;> rfl

theorem level_of_mem_preamble (h : e ∈ step.preamble) : e.level = .info ∨ e.level = .debug := by
  rcases List.mem_append.1 h with hin | hin
  · exact .inl (level_of_mem_announcement hin)
  · obtain rfl := List.mem_singleton.1 hin
    exact .inr rfl

theorem isAtLeast_of_mem_preamble (h : e ∈ step.preamble) : e.isAtLeast .warn = false := by
  rcases level_of_mem_preamble h with hlevel | hlevel <;> simp [Event.isAtLeast, hlevel, Level.rank]

theorem isAtLeast_of_mem_announcement (h : e ∈ step.announcement) : e.isAtLeast .warn = false :=
  isAtLeast_of_mem_preamble (List.mem_append_left _ h)

theorem verdictEvents_of_success (step : Step) (h : status.code = some 0) : step.verdictEvents status = [] :=
  if_pos (status.isSuccess_iff.2 h)

theorem exists_complains (step : Step) (h : status.code ≠ some 0) :
    ∃ e, step.Complains status e ∧ step.verdictEvents status = [e] := by
  have hbad : ¬ status.isSuccess = true := mt status.isSuccess_iff.1 h
  unfold verdictEvents
  rw [if_neg hbad]
  cases hf : step.onFailure with
  | stop => exact ⟨_, .fatal (by simp [OnFailure.IsFatal, hf]), rfl⟩
  | assumeExists => exact ⟨_, .assumed hf, rfl⟩
  | stopAndRemove cleanup => exact ⟨_, .fatal (by simp [OnFailure.IsFatal, hf]), rfl⟩
  | continueAndRemove cleanup => exact ⟨_, .continued hf, rfl⟩

theorem records_run (hquiet : ∀ s c, (host.start s c).events = []) (s : σ) (step : Step) :
    step.Records host s (step.run host s).events := by
  by_cases hlacks : step.LacksDirectory host s
  · obtain ⟨d, hd, hno⟩ := hlacks
    rw [run_of_lacks hd hno]
    exact .lacking ⟨d, hd, hno⟩
  · have hdir := (step.missingDirectory?_eq_none_iff host s).2 hlacks
    cases hr : (host.start s step.command).reply with
    | error cause =>
      have hevents : (step.run host s).events = step.preamble := by
        simp [run, hdir, hr, hquiet, preamble]
      rw [hevents]
      exact .notStarted hlacks hr
    | ok status =>
      have hevents : (step.run host s).events = step.preamble ++ step.verdictEvents status := by
        simp [run, hdir, hr, hquiet, preamble]
      rw [hevents]
      by_cases hc : status.code = some 0
      · rw [step.verdictEvents_of_success hc, List.append_nil]
        exact .succeeded hlacks hr hc
      · obtain ⟨e, hcomplains, hverdict⟩ := step.exists_complains hc
        rw [hverdict]
        exact .complained hlacks hr hc hcomplains

end Step

/-! ## Commands -/

/-- The event that shows a command before it is started. -/
def Event.running (c : Command) : Event :=
  ⟨.debug, .provisioner, "running " ++ c.line⟩

theorem Step.filter_debug_preamble (step : Step) :
    step.preamble.filter (·.level == .debug) = [.running step.command] := by
  have hnone : step.announcement.filter (·.level == .debug) = [] :=
    List.filter_eq_nil_iff.2 fun e he => by simp [level_of_mem_announcement he]
  rw [preamble, List.filter_append, hnone]
  rfl

theorem Step.Records.filter_debug {host : Host σ} {s : σ} {step : Step} {block : List Event}
    (h : step.Records host s block) :
    block.filter (·.level == .debug) = (step.run host s).calls.map .running := by
  cases h with
  | lacking hlacks =>
    rw [run_calls_of_lacks hlacks]
    exact List.filter_eq_nil_iff.2 fun e he => by simp [level_of_mem_announcement he]
  | notStarted hlacks _ => rw [run_calls_of_not_lacks hlacks, filter_debug_preamble, List.map_singleton]
  | succeeded hlacks _ _ => rw [run_calls_of_not_lacks hlacks, filter_debug_preamble, List.map_singleton]
  | @complained status e hlacks _ _ hcomplains =>
    have hnot : (e.level == .debug) = false := by
      rcases hcomplains.level with ⟨-, hlevel⟩ | ⟨-, hlevel⟩ <;> simp [hlevel]
    rw [run_calls_of_not_lacks hlacks, List.filter_append, filter_debug_preamble, List.filter_singleton, hnot]
    rfl

theorem runSteps_filter_debug {host : Host σ} (hquiet : ∀ s c, (host.start s c).events = [])
    (steps : List Step) (s : σ) :
    (runSteps host steps s).events.filter (·.level == .debug) =
      (runSteps host steps s).calls.map .running := by
  induction steps generalizing s with
  | nil => rfl
  | cons step rest ih =>
    have hfirst := (step.records_run hquiet s).filter_debug
    cases h : (step.run host s).result with
    | error failure => rw [runSteps_of_error rest h, hfirst]
    | ok report => simp only [runSteps_of_ok rest h, List.filter_append, List.map_append, hfirst, ih]

/-! ## Bad endings -/

/-- The bad endings among what came of the commands of some steps, each with its step. -/
def badEndings (steps : List Step) (replies : List Reply) : List (Step × ExitStatus) :=
  (steps.zip replies).filterMap fun x =>
    match x.2 with
    | .ok status => if status.code = some 0 then none else some (x.1, status)
    | .error _ => none

@[simp] theorem badEndings_nil (steps : List Step) : badEndings steps [] = [] := by
  simp [badEndings]

theorem badEndings_cons_cons (step : Step) (steps : List Step) (reply : Reply) (replies : List Reply) :
    badEndings (step :: steps) (reply :: replies) =
      badEndings [step] [reply] ++ badEndings steps replies := by
  simp only [badEndings, List.zip_cons_cons, List.zip_nil_right, ← List.filterMap_append, List.singleton_append]

theorem Step.Records.filter_warn {host : Host σ} {s : σ} {step : Step} {block : List Event}
    (h : step.Records host s block) :
    List.Forall₂ (fun x e => x.1.Complains x.2 e)
      (badEndings [step] (host.replies s (step.run host s).calls)) (block.filter (·.isAtLeast .warn)) := by
  have hpreamble : step.preamble.filter (·.isAtLeast .warn) = [] :=
    List.filter_eq_nil_iff.2 fun e he => by simp [isAtLeast_of_mem_preamble he]
  cases h with
  | lacking hlacks =>
    have hannouncement : step.announcement.filter (·.isAtLeast .warn) = [] :=
      List.filter_eq_nil_iff.2 fun e he => by simp [isAtLeast_of_mem_announcement he]
    rw [run_calls_of_lacks hlacks, hannouncement]
    exact .nil
  | notStarted hlacks hr =>
    have hreply : (host.start s step.command).reply = _ := hr
    rw [run_calls_of_not_lacks hlacks, hpreamble]
    simp [badEndings, hreply]
  | succeeded hlacks hr hc =>
    have hreply : (host.start s step.command).reply = _ := hr
    rw [run_calls_of_not_lacks hlacks, hpreamble]
    simp [badEndings, hreply, hc]
  | complained hlacks hr hc hcomplains =>
    have hreply : (host.start s step.command).reply = _ := hr
    rw [run_calls_of_not_lacks hlacks, List.filter_append, hpreamble]
    simp [badEndings, hreply, hc, hcomplains, hcomplains.isAtLeast]

theorem runSteps_events_of_not_stops {host : Host σ} {s : σ} {step : Step} (rest : List Step)
    (h : ¬ step.Stops host s) :
    (runSteps host (step :: rest) s).events =
      (step.run host s).events ++ (runSteps host rest (host.start s step.command).next).events := by
  obtain ⟨report, -, hresult⟩ := Step.run_of_not_stops h
  have hfinal : (step.run host s).final = (host.start s step.command).next := by
    rw [step.run_final, Step.run_calls_of_not_lacks fun hlacks => h (.inl hlacks)]
    rfl
  rw [runSteps_of_ok rest hresult, hfinal]

/-- Each bad ending is complained of once, in order. -/
theorem runSteps_filter_warn {host : Host σ} (hquiet : ∀ s c, (host.start s c).events = [])
    (steps : List Step) (s : σ) :
    List.Forall₂ (fun x e => x.1.Complains x.2 e)
      (badEndings steps (host.replies s (runSteps host steps s).calls))
      ((runSteps host steps s).events.filter (·.isAtLeast .warn)) := by
  induction steps generalizing s with
  | nil => exact .nil
  | cons step rest ih =>
    have hfirst := (step.records_run hquiet s).filter_warn
    by_cases hstops : step.Stops host s
    · obtain ⟨failure, -, hfails⟩ := Step.run_of_stops hstops
      have hsame : badEndings (step :: rest) (host.replies s (step.run host s).calls) =
          badEndings [step] (host.replies s (step.run host s).calls) := by
        by_cases hlacks : step.LacksDirectory host s
        · simp [Step.run_calls_of_lacks hlacks]
        · rw [Step.run_calls_of_not_lacks hlacks, Host.replies_cons, Host.replies_nil,
            badEndings_cons_cons, badEndings_nil, List.append_nil]
      rw [runSteps_of_error rest hfails, hsame]
      exact hfirst
    · obtain ⟨-, -, -, hcalls⟩ := runSteps_of_not_stops rest hstops
      rw [Step.run_calls_of_not_lacks fun hlacks => hstops (.inl hlacks)] at hfirst
      rw [hcalls, Host.replies_cons, badEndings_cons_cons, runSteps_events_of_not_stops rest hstops,
        List.filter_append]
      exact List.rel_append hfirst (ih _)

/-! ## Errors -/

/-- The run failed by the ending of a command. -/
def FailsByEnding {α : Type} (result : Except Failure α) : Prop :=
  ∃ failure, result = .error failure ∧ failure.IsByEnding

@[simp] theorem failsByEnding_error {α : Type} (failure : Failure) :
    FailsByEnding (.error failure : Except Failure α) ↔ failure.IsByEnding := by
  simp [FailsByEnding]

@[simp] theorem failsByEnding_ok {α : Type} (a : α) : ¬ FailsByEnding (.ok a : Except Failure α) := by
  simp [FailsByEnding]

@[simp] theorem failsByEnding_map {α β : Type} (f : α → β) (result : Except Failure α) :
    FailsByEnding (result.map f) ↔ FailsByEnding result := by
  cases result <;> simp [Except.map]

/-- Some events hold an error if something failed, at their end, and otherwise none. -/
inductive MarksFailure (failed : Prop) : List Event → Prop
  | marked {before : List Event} {last : Event} : failed → (∀ e ∈ before, e.level ≠ .error) →
      last.level = .error → MarksFailure failed (before ++ [last])
  | unmarked {events : List Event} : ¬ failed → (∀ e ∈ events, e.level ≠ .error) →
      MarksFailure failed events

namespace MarksFailure

variable {failed failed' : Prop} {events : List Event}

theorem congr (h : MarksFailure failed events) (hiff : failed ↔ failed') : MarksFailure failed' events :=
  propext hiff ▸ h

theorem prepend {front : List Event} (h : MarksFailure failed events)
    (hfront : ∀ e ∈ front, e.level ≠ .error) : MarksFailure failed (front ++ events) := by
  cases h with
  | marked hfailed hbefore hlast =>
    rw [← List.append_assoc]
    exact .marked hfailed (List.forall_mem_append.2 ⟨hfront, hbefore⟩) hlast
  | unmarked hno hnone => exact .unmarked hno (List.forall_mem_append.2 ⟨hfront, hnone⟩)

theorem no_error (h : MarksFailure failed events) (hno : ¬ failed) : ∀ e ∈ events, e.level ≠ .error := by
  cases h with
  | marked hfailed _ _ => exact absurd hfailed hno
  | unmarked _ hnone => exact hnone

theorem exists_error_iff (h : MarksFailure failed events) : (∃ e ∈ events, e.level = .error) ↔ failed := by
  cases h with
  | marked hfailed _ hlast =>
    exact iff_of_true ⟨_, List.mem_append_right _ (List.mem_singleton_self _), hlast⟩ hfailed
  | unmarked hno hnone => exact iff_of_false (fun ⟨e, he, hlevel⟩ => hnone e he hlevel) hno

/-- An error is the last event, so there is no other. -/
theorem eq_last (h : MarksFailure failed events) {k : Nat} {e : Event} (hk : events[k]? = some e)
    (hlevel : e.level = .error) : k + 1 = events.length := by
  cases h with
  | @marked before last _ hbefore _ =>
    have hlength := (List.getElem?_eq_some_iff.1 hk).1
    rw [List.length_append, List.length_singleton] at hlength ⊢
    by_contra hne
    have hin : k < before.length := by omega
    rw [List.getElem?_append_left hin] at hk
    exact hbefore e (List.mem_of_getElem? hk) hlevel
  | unmarked _ hnone => exact absurd hlevel (hnone e (List.mem_of_getElem? hk))

end MarksFailure

namespace Step

variable {host : Host σ} {s : σ} {step : Step} {block : List Event}

theorem failsByEnding_run_iff (host : Host σ) (s : σ) (step : Step) :
    FailsByEnding (step.run host s).result ↔ ¬ step.LacksDirectory host s ∧
      ∃ status, step.reply host s = .ok status ∧ status.code ≠ some 0 ∧ step.onFailure.IsFatal := by
  rcases step.run_cases host s with ⟨d, hd, hno, hresult, -⟩ | ⟨hdir, hstop | hreport, -⟩
  · rw [hresult, failsByEnding_error]
    exact iff_of_false id fun h => h.1 ⟨d, hd, hno⟩
  · obtain ⟨failure, hwith, hresult⟩ := hstop
    rw [hresult, failsByEnding_error]
    cases hwith with
    | directory hd hno => exact absurd ⟨_, hd, hno⟩ hdir
    | start _ hr => simp [Failure.IsByEnding, hr]
    | ending _ hr hc hf => simp [Failure.IsByEnding, OnFailure.IsFatal, hdir, hr, hc, hf]
    | table _ hr hc hf => simp [Failure.IsByEnding, OnFailure.IsFatal, hdir, hr, hc, hf]
  · obtain ⟨report, hreports, hresult⟩ := hreport
    rw [hresult]
    refine iff_of_false (failsByEnding_ok report) ?_
    rintro ⟨-, status, hr, hc, hfatal⟩
    exact hreports.not_stops hdir (.inr (.inr ⟨status, hr, hc, hfatal⟩))

theorem level_ne_of_mem_preamble {e : Event} (h : e ∈ step.preamble) : e.level ≠ .error := by
  rcases level_of_mem_preamble h with hlevel | hlevel <;> simp [hlevel]

theorem Records.marksFailure (h : step.Records host s block) :
    MarksFailure (FailsByEnding (step.run host s).result) block := by
  rw [failsByEnding_run_iff]
  cases h with
  | lacking hlacks =>
    exact .unmarked (fun h => h.1 hlacks) fun e he => by simp [level_of_mem_announcement he]
  | notStarted _ hr => exact .unmarked (by simp [hr]) fun e => level_ne_of_mem_preamble
  | succeeded _ hr hc => exact .unmarked (by simp [hr, hc]) fun e => level_ne_of_mem_preamble
  | @complained status e hlacks hr hc hcomplains =>
    by_cases hfatal : step.onFailure.IsFatal
    · exact .marked ⟨hlacks, status, hr, hc, hfatal⟩ (fun e => level_ne_of_mem_preamble)
        (hcomplains.level_eq_error_iff.2 hfatal)
    · refine .unmarked (fun ⟨_, _, _, _, h⟩ => hfatal h) (List.forall_mem_append.2
        ⟨fun e => level_ne_of_mem_preamble, fun e he => ?_⟩)
      obtain rfl := List.mem_singleton.1 he
      exact mt hcomplains.level_eq_error_iff.1 hfatal

/-- A step that stops the run other than by an ending leaves no complaint. -/
theorem Records.isAtLeast_of_stopsWith {failure : Failure} (h : step.Records host s block)
    (hwith : step.StopsWith host s failure) (hnot : ¬ failure.IsByEnding) :
    ∀ e ∈ block, e.isAtLeast .warn = false := by
  cases h with
  | lacking _ => exact fun e => isAtLeast_of_mem_announcement
  | notStarted _ _ => exact fun e => isAtLeast_of_mem_preamble
  | succeeded _ _ _ => exact fun e => isAtLeast_of_mem_preamble
  | complained hlacks hr hc _ =>
    cases hwith with
    | directory hd hno => exact absurd ⟨_, hd, hno⟩ hlacks
    | start _ hr' => cases hr.symm.trans hr'
    | ending _ _ _ _ => exact absurd trivial hnot
    | table _ _ _ _ => exact absurd trivial hnot

end Step

theorem runSteps_marksFailure {host : Host σ} (hquiet : ∀ s c, (host.start s c).events = [])
    (steps : List Step) (s : σ) :
    MarksFailure (FailsByEnding (runSteps host steps s).result) (runSteps host steps s).events := by
  induction steps generalizing s with
  | nil => exact .unmarked (failsByEnding_ok []) (List.forall_mem_nil _)
  | cons step rest ih =>
    have hfirst := (step.records_run hquiet s).marksFailure
    cases h : (step.run host s).result with
    | error failure =>
      rw [runSteps_of_error rest h]
      refine hfirst.congr ?_
      rw [h, failsByEnding_error, failsByEnding_error]
    | ok report =>
      rw [runSteps_of_ok rest h]
      rw [h] at hfirst
      exact ((ih _).prepend (hfirst.no_error (failsByEnding_ok report))).congr (failsByEnding_map _ _).symm

/-! ## Blocks -/

/-- A run comes to the step at a position: there is one, and none before it stops the run. -/
def ComesTo (host : Host σ) (s : σ) (steps : List Step) (k : Nat) : Prop :=
  k < steps.length ∧ ∀ j < k, ¬ StopsAt host s steps j

theorem comesTo_zero (host : Host σ) (s : σ) (step : Step) (rest : List Step) :
    ComesTo host s (step :: rest) 0 := ⟨Nat.succ_pos _, by simp⟩

theorem comesTo_succ (host : Host σ) (s : σ) (step : Step) (rest : List Step) (k : Nat) :
    ComesTo host s (step :: rest) (k + 1) ↔
      ¬ step.Stops host s ∧ ComesTo host (host.start s step.command).next rest k := by
  rw [ComesTo, ComesTo, Nat.forall_lt_succ_left, stopsAt_zero]
  simp only [stopsAt_succ, List.length_cons, Nat.add_lt_add_iff_right]
  exact and_left_comm

theorem IsFirstStop.comesTo {host : Host σ} {s : σ} {steps : List Step} {k : Nat}
    (h : IsFirstStop host s steps k) : ComesTo host s steps k := by
  obtain ⟨⟨step, hstep, -⟩, hbefore⟩ := h
  exact ⟨(List.getElem?_eq_some_iff.1 hstep).1, hbefore⟩

/-- The events of a run are those of the steps it comes to, one after another. -/
theorem runSteps_blocks {host : Host σ} (hquiet : ∀ s c, (host.start s c).events = [])
    (steps : List Step) (s : σ) :
    ∃ blocks : List (List Event), (runSteps host steps s).events = blocks.flatten ∧
      (∀ k, k < blocks.length ↔ ComesTo host s steps k) ∧
      ∀ (k : Nat) (step : Step) (block : List Event), steps[k]? = some step → blocks[k]? = some block →
        step.Records host (stateBefore host s steps k) block := by
  induction steps generalizing s with
  | nil => exact ⟨[], rfl, by simp [ComesTo], by simp⟩
  | cons step rest ih =>
    have hfirst := step.records_run hquiet s
    by_cases hstops : step.Stops host s
    · obtain ⟨failure, -, hfails⟩ := Step.run_of_stops hstops
      refine ⟨[(step.run host s).events], by rw [runSteps_of_error rest hfails]; simp, fun k => ?_,
        fun k step' block hstep hblock => ?_⟩
      · cases k with
        | zero => exact iff_of_true Nat.one_pos (comesTo_zero ..)
        | succ k => simp [comesTo_succ, hstops]
      · cases k with
        | zero =>
          cases hstep
          cases hblock
          exact hfirst
        | succ k => cases hblock
    · obtain ⟨blocks, hevents, hlength, hrecords⟩ := ih (host.start s step.command).next
      refine ⟨(step.run host s).events :: blocks, ?_, fun k => ?_, fun k step' block hstep hblock => ?_⟩
      · rw [runSteps_events_of_not_stops rest hstops, hevents, List.flatten_cons]
      · cases k with
        | zero => exact iff_of_true (Nat.succ_pos _) (comesTo_zero ..)
        | succ k => rw [comesTo_succ, ← hlength k, List.length_cons, Nat.add_lt_add_iff_right]; simp [hstops]
      · cases k with
        | zero =>
          cases hstep
          cases hblock
          exact hfirst
        | succ k => exact hrecords k step' block hstep hblock

/-- Where a run fails other than by an ending, the last step it comes to leaves no complaint. -/
theorem exists_last_block {host : Host σ} {s : σ} {steps : List Step} {blocks : List (List Event)}
    (hlength : ∀ k, k < blocks.length ↔ ComesTo host s steps k)
    (hrecords : ∀ (k : Nat) (step : Step) (block : List Event), steps[k]? = some step →
      blocks[k]? = some block → step.Records host (stateBefore host s steps k) block)
    {failure : Failure} (hfails : (runSteps host steps s).result = .error failure)
    (hnot : ¬ failure.IsByEnding) :
    ∃ block, blocks.getLast? = some block ∧ ∀ e ∈ block, e.isAtLeast .warn = false := by
  obtain ⟨k, step, hfirst, hstep, hwith, -⟩ := runSteps_of_fails hfails
  have hin : k < blocks.length := (hlength k).2 hfirst.comesTo
  have hend : ¬ k + 1 < blocks.length := fun h => ((hlength _).1 h).2 k (Nat.lt_succ_self k) hfirst.1
  have hlast : blocks.length - 1 = k := by omega
  have hblock : blocks[k]? = some blocks[k] := List.getElem?_eq_getElem hin
  refine ⟨blocks[k], by rw [List.getLast?_eq_getElem?, hlast, hblock], ?_⟩
  exact (hrecords k step _ hstep hblock).isAtLeast_of_stopsWith hwith hnot

namespace Plan

/-- The event that opens a run. -/
def opening (plan : Plan) : Event :=
  ⟨.info, .provisioner, "provisioning BigQuery for " ++ plan.project.text⟩

theorem run_events (plan : Plan) (host : Host σ) (s : σ) :
    (plan.run host s).events = plan.opening :: (runSteps host plan.steps s).events := rfl

end Plan

end Provisioning
