import MarkupLint.Log.Sinks

/-!
Handlers over a run of calls. A call that configures sets the level first, keeps a handler that
writes where it is asked to, and otherwise takes the current one away before it opens the target, so
that it leaves none behind when this fails. The invariant says what is attached: the handlers of
others, which no call touches, and after them the current one, if there is one, at the level of the
channel and with the target that is remembered (`Logging.Carries`). Main statement: it holds after
every run, and a configuration that succeeds leaves one handler of its own, for what was asked
(`Journal.configure_run`).
-/
namespace MarkupLint

/-- What a handler writes of a record that reaches it. -/
def Handler.line? (e : Emission) (handler : Handler) : Option (LogTarget × String) :=
  if (handler.level : Int) ≤ e.level then some (handler.target, Logging.lineOf e) else none

namespace Logging

/-- No handler is remembered, and those that are attached were made elsewhere. -/
structure IsInitial (logging : Logging) : Prop where
  current : logging.current = none
  made : ∀ handler ∈ logging.attached, handler.number < logging.made

example : ({} : Logging).IsInitial := ⟨rfl, nofun⟩

/-- What is attached are the handlers of others and the current one. -/
structure Carries (others : List Handler) (own : Option Handler) (logging : Logging) : Prop where
  attached : logging.attached = others ++ own.toList
  current : logging.current = own.map (·.number)
  target : ∀ handler ∈ own, logging.target = some handler.target
  level : ∀ handler ∈ own, handler.level = logging.level
  apart : ∀ handler ∈ others, handler.number < logging.made ∧
    logging.current ≠ some handler.number

variable {logging : Logging} {others : List Handler} {own : Option Handler}

theorem IsInitial.carries (initial : logging.IsInitial) :
    Carries logging.attached none logging where
  attached := (List.append_nil _).symm
  current := initial.current
  target := nofun
  level := nofun
  apart handler member := ⟨initial.made handler member, by rw [initial.current]; exact nofun⟩

theorem Carries.isCurrent_eq_false (carries : Carries others own logging) :
    ∀ handler ∈ others, logging.isCurrent handler = false := fun handler member =>
  beq_eq_false_iff_ne.mpr (carries.apart handler member).2

theorem Carries.isCurrent_own {handler : Handler}
    (carries : Carries others (some handler) logging) :
    logging.isCurrent handler = true :=
  beq_iff_eq.mpr carries.current

theorem Carries.detach (carries : Carries others own logging) :
    Carries others none logging.detach where
  attached := by
    have kept : others.filter (!logging.isCurrent ·) = others :=
      List.filter_eq_self.mpr fun handler member => by
        rw [carries.isCurrent_eq_false handler member]; rfl
    cases own with
    | none => simp [Logging.detach, carries.attached, kept]
    | some handler =>
      simp [Logging.detach, carries.attached, kept, carries.isCurrent_own]
  current := rfl
  target := nofun
  level := nofun
  apart handler member := ⟨(carries.apart handler member).1, nofun⟩

theorem Carries.attach (carries : Carries others none logging) (target : LogTarget) :
    Carries others (some ⟨logging.made, target, logging.level⟩)
      (logging.attach target logging.level) where
  attached := by
    rw [Logging.attach, carries.attached]
    rw [Option.toList_none, List.append_nil, Option.toList_some]
  current := rfl
  target := by rintro _ ⟨⟩; rfl
  level := by rintro _ ⟨⟩; rfl
  apart handler member := by
    have earlier := (carries.apart handler member).1
    exact ⟨Nat.lt_succ_of_lt earlier, by
      rw [Logging.attach, Ne, Option.some_inj]; exact Nat.ne_of_gt earlier⟩

/-- The current handler gets another level; those of others keep theirs. -/
theorem Carries.relevel {handler : Handler} (carries : Carries others (some handler) logging)
    (level : Nat) :
    Carries others (some { handler with level := level })
      { logging with
        level := level
        attached := logging.attached.map fun h =>
          if logging.isCurrent h then { h with level := level } else h } where
  attached := by
    have untouched : others.map (fun h =>
        if logging.isCurrent h then { h with level := level } else h) = others :=
      (List.map_congr_left fun h member =>
        if_neg (Bool.eq_false_iff.mp (carries.isCurrent_eq_false h member))).trans
        (List.map_id others)
    rw [carries.attached, Option.toList_some, List.map_append, untouched, List.map_singleton,
      if_pos carries.isCurrent_own]
    rfl
  current := carries.current
  target := by rintro _ ⟨⟩; exact carries.target handler rfl
  level := by rintro _ ⟨⟩; rfl
  apart := carries.apart

/-- Whether the current handler writes to a target. -/
def writesTo (logging : Logging) (target : LogTarget) : Bool :=
  logging.target = some target && logging.current.isSome

/-- What a call that configures leaves, together with its result. -/
inductive Leaves (others : List Handler) (target : LogTarget) (level : Nat) :
    Logging × Except OpenError Unit → Prop
  | handler {after : Logging} {handler : Handler} (carries : Carries others (some handler) after)
      (sameTarget : handler.target = target) (sameLevel : after.level = level) :
      Leaves others target level (after, .ok ())
  | nothing {after : Logging} (error : OpenError) (carries : Carries others none after)
      (sameLevel : after.level = level) : Leaves others target level (after, .error error)

/-- A handler that writes where it is asked to stays. -/
theorem Carries.leaves_of_writesTo (carries : Carries others own logging) {target : LogTarget}
    (writes : logging.writesTo target = true) (level : Nat) (opened : Except OpenError Unit) :
    Leaves others target level (logging.configure target level opened) := by
  have kept : logging.configure target level opened =
      ({ logging with
        level := level
        attached := logging.attached.map fun h =>
          if logging.isCurrent h then { h with level := level } else h }, .ok ()) :=
    if_pos writes
  rw [writesTo, Bool.and_eq_true, decide_eq_true_eq, carries.current] at writes
  obtain ⟨asked, remembered⟩ := writes
  cases own with
  | none => cases remembered
  | some handler =>
    have written := carries.target handler rfl
    rw [kept]
    exact .handler (carries.relevel level) (Option.some_inj.mp (written.symm.trans asked)) rfl

/-- Otherwise the current handler goes, and one of that level comes where the target opens. -/
theorem Carries.leaves_of_writesTo_eq_false (carries : Carries others own logging)
    {target : LogTarget} (writes : logging.writesTo target = false) (level : Nat)
    (opened : Except OpenError Unit) :
    Leaves others target level (logging.configure target level opened) := by
  -- The level is set before the handler goes, which reads no level.
  have bare : Carries others none { logging.detach with level := level } :=
    have detached := carries.detach
    ⟨detached.attached, detached.current, nofun, nofun, detached.apart⟩
  have other := Bool.eq_false_iff.mp writes
  cases opened with
  | error e =>
    have gone : logging.configure target level (.error e) =
        ({ logging.detach with level := level }, .error e) := if_neg other
    rw [gone]
    exact .nothing e bare rfl
  | ok =>
    have replaced : logging.configure target level (.ok ()) =
        ({ logging.detach with level := level }.attach target level, .ok ()) := if_neg other
    rw [replaced]
    exact .handler (bare.attach target) rfl rfl

theorem Carries.leaves (carries : Carries others own logging) (target : LogTarget) (level : Nat)
    (opened : Except OpenError Unit) :
    Leaves others target level (logging.configure target level opened) := by
  cases writes : logging.writesTo target with
  | true => exact carries.leaves_of_writesTo writes level opened
  | false => exact carries.leaves_of_writesTo_eq_false writes level opened

theorem Leaves.exists_carries {target : LogTarget} {level : Nat}
    {result : Logging × Except OpenError Unit} (leaves : Leaves others target level result) :
    ∃ own, Carries others own result.1 := by
  cases leaves with
  | handler carries => exact ⟨_, carries⟩
  | nothing _ carries => exact ⟨_, carries⟩

theorem Carries.reset (carries : Carries others own logging) :
    Carries others none logging.reset :=
  have detached := carries.detach
  ⟨detached.attached, detached.current, nofun, nofun, detached.apart⟩

/-- A call succeeds where there is nothing to open, and where the target opens. -/
theorem snd_configure (target : LogTarget) (level : Nat) (opened : Except OpenError Unit) :
    (logging.configure target level opened).2 =
      if logging.writesTo target then .ok () else opened := by
  cases writes : logging.writesTo target with
  | true => exact congrArg Prod.snd (if_pos writes)
  | false =>
    refine (congrArg Prod.snd (if_neg (Bool.eq_false_iff.mp writes))).trans ?_
    cases opened <;> rfl

/-! ### Delivery -/

theorem Carries.level_le_threshold {handler : Handler}
    (carries : Carries others (some handler) logging) {channel : String}
    (channelOwn : isOwn channel = true) : handler.level ≤ logging.threshold channel := by
  rw [carries.level handler rfl, threshold, channelOwn, Bool.true_and]
  split
  next => exact Nat.le_refl _
  next unset =>
    rw [bne_iff_ne, Decidable.not_not] at unset
    rw [unset]
    exact Nat.zero_le _

/-- A record that the channel lets through is written by the current handler, after those of
others. -/
theorem Carries.deliver {handler : Handler} (carries : Carries others (some handler) logging)
    {e : Emission} (channelOwn : isOwn e.channel = true)
    (passes : (logging.threshold e.channel : Int) ≤ e.level) :
    logging.deliver e = others.filterMap (Handler.line? e) ++ [(handler.target, lineOf e)] := by
  have reached : (handler.level : Int) ≤ e.level :=
    Int.le_trans (Int.ofNat_le.mpr (carries.level_le_threshold channelOwn)) passes
  have nonempty : logging.attached.isEmpty = false := by
    rw [carries.attached, List.isEmpty_eq_false_iff]
    exact List.append_ne_nil_of_right_ne_nil others (List.cons_ne_nil handler [])
  have written : logging.deliver e = logging.attached.filterMap (Handler.line? e) := by
    rw [Logging.deliver, if_neg (Int.not_lt.mpr passes), channelOwn, nonempty]
    rfl
  have own : Handler.line? e handler = some (handler.target, lineOf e) := if_pos reached
  rw [written, carries.attached, List.filterMap_append, Option.toList_some,
    List.filterMap_cons_some own, List.filterMap_nil]

end Logging

namespace Journal

open Logging

/-- What happens between the beginning and a call: configurations, resets, records that are written,
and files and folders that come and go. -/
inductive Act where
  | configure (target : LogTarget) (level : String)
  | setUp (verbose : Int) (configured : String)
  | reset
  | emit (e : Emission)
  | replace (sinks : Sinks)

def act (journal : Journal) : Act → Journal
  | .configure target level => (journal.configure target level).1
  | .setUp verbose configured => journal.setUp verbose configured
  | .reset => journal.reset
  | .emit e => journal.emit e
  | .replace sinks => { journal with sinks := sinks }

def run (start : Journal) (acts : List Act) : Journal :=
  acts.foldl act start

variable {others : List Handler}

theorem exists_carries_configure {journal : Journal} {own : Option Handler}
    (carries : Carries others own journal.logging) (target : LogTarget) (level : String) :
    ∃ next, Carries others next (journal.configure target level).1.logging :=
  (carries.leaves target (levelNumber level) _).exists_carries

theorem exists_carries_act {journal : Journal}
    (carries : ∃ own, Carries others own journal.logging) (a : Act) :
    ∃ own, Carries others own (journal.act a).logging := by
  obtain ⟨own, carries⟩ := carries
  cases a with
  | configure target level => exact exists_carries_configure carries target level
  | setUp verbose configured => exact exists_carries_configure carries .console _
  | reset => exact ⟨none, carries.reset⟩
  | emit => exact ⟨own, carries⟩
  | replace => exact ⟨own, carries⟩

theorem exists_carries_run {start : Journal} (carries : ∃ own, Carries others own start.logging)
    (acts : List Act) : ∃ own, Carries others own (start.run acts).logging := by
  induction acts generalizing start with
  | nil => exact carries
  | cons a acts ih => exact ih (exists_carries_act carries a)

theorem snd_configure (journal : Journal) (target : LogTarget) (level : String) :
    (journal.configure target level).2 =
      if journal.logging.writesTo target then .ok ()
      else (journal.sinks.openTarget target).map fun _ => () := by
  refine (Logging.snd_configure target (levelNumber level) _).trans ?_
  cases writes : journal.logging.writesTo target with
  | true => rfl
  | false => exact congrArg (Except.map _) (if_neg (Bool.eq_false_iff.mp writes))

theorem configure_eq_ok_iff (journal : Journal) (target : LogTarget) (level : String) :
    (journal.configure target level).2 = .ok () ↔
      journal.logging.writesTo target = true ∨
        ∃ sinks, journal.sinks.openTarget target = .ok sinks := by
  rw [snd_configure]
  cases journal.logging.writesTo target with
  | true => exact iff_of_true rfl (.inl rfl)
  | false =>
    cases journal.sinks.openTarget target with
    | error e => exact iff_of_false nofun (by rintro (⟨⟨⟩⟩ | ⟨_, ⟨⟩⟩))
    | ok sinks => exact iff_of_true rfl (.inr ⟨sinks, rfl⟩)

/-- Whatever has been called before, what is attached are the handlers that were there at the
beginning and, where one is remembered, the handler that the calls made. A configuration succeeds
where its target opens or is the current one. It then leaves exactly one handler of its own, which
writes to that target at that level, as the channel does; otherwise it leaves none. A reset leaves
none either. -/
theorem configure_run {start : Journal} (initial : start.logging.IsInitial) (acts : List Act) :
    let others := start.logging.attached
    let journal := start.run acts
    (∃ own : Option Handler, journal.logging.attached = others ++ own.toList ∧
        journal.logging.current = own.map (·.number) ∧
        ∀ handler ∈ others, journal.logging.isCurrent handler = false) ∧
      (∀ target level,
        let after := (journal.configure target level).1.logging
        let result := (journal.configure target level).2
        (result = .ok () ↔ journal.logging.writesTo target = true ∨
          ∃ sinks, journal.sinks.openTarget target = .ok sinks) ∧
        (result = .ok () → ∃ handler : Handler, after.attached = others ++ [handler] ∧
          after.current = some handler.number ∧ handler.target = target ∧
          handler.level = levelNumber level ∧ after.level = levelNumber level ∧
          ∀ e, isOwn e.channel = true → (after.threshold e.channel : Int) ≤ e.level →
            after.deliver e = others.filterMap (Handler.line? e) ++ [(target, lineOf e)]) ∧
        ∀ error, result = .error error → after.attached = others ∧ after.current = none) ∧
      journal.reset.logging.attached = others ∧ journal.reset.logging.current = none := by
  intro others journal
  obtain ⟨own, carries⟩ := exists_carries_run ⟨none, initial.carries⟩ acts
  have none_left {logging : Logging} (bare : Carries others none logging) :
      logging.attached = others ∧ logging.current = none :=
    ⟨bare.attached.trans (List.append_nil others), bare.current⟩
  refine ⟨⟨own, carries.attached, carries.current, carries.isCurrent_eq_false⟩, ?_,
    none_left carries.reset⟩
  intro target level after result
  have leaves : Leaves others target (levelNumber level) (after, result) :=
    carries.leaves target (levelNumber level) _
  refine ⟨configure_eq_ok_iff journal target level, ?_⟩
  clear_value after result
  cases leaves with
  | @handler _ handler carries sameTarget sameLevel =>
    refine ⟨fun _ => ⟨handler, carries.attached, carries.current, sameTarget,
      (carries.level handler rfl).trans sameLevel, sameLevel, ?_⟩, nofun⟩
    intro e channelOwn passes
    rw [carries.deliver channelOwn passes, sameTarget]
  | nothing error bare => exact ⟨nofun, fun _ _ => none_left bare⟩

/-- A file that cannot be made takes the handler away, though the file before it is still
remembered; that one is opened again. -/
theorem configure_run_after_failure :
    let theirs : Handler := ⟨0, .console, 40⟩
    let start : Journal := { logging := { attached := [theirs], made := 1 } }
    let log : LogTarget := .file ⟨"/", ["log"]⟩
    let below : LogTarget := .file ⟨"/", ["log", "today"]⟩
    let acts : List Act := [.setUp 1 "ERROR", .configure log "debug", .configure below "info"]
    start.logging.IsInitial ∧ (start.run acts).logging.target = some log ∧
      (start.run acts).logging.current = none ∧
      ((start.run acts).configure log "chatty").2 = .ok () ∧
      ∃ own, ((start.run acts).configure log "chatty").1.logging.attached =
          start.logging.attached ++ [own] ∧
        own.target = log ∧ own.level = levelNumber "chatty" := by
  intro theirs start log below acts
  have initial : start.logging.IsInitial := ⟨rfl, by decide⟩
  have stale : (start.run acts).logging.target = some log ∧
      (start.run acts).logging.current = none := by
    decide +kernel
  have opens : ((start.run acts).configure log "chatty").2 = .ok () := by
    cases opened : ((start.run acts).configure log "chatty").2 with
    | ok => rfl
    | error =>
      have succeeds : ((start.run acts).configure log "chatty").2.isOk = true := by decide +kernel
      rw [opened] at succeeds
      cases succeeds
  obtain ⟨own, attached, -, target, level, -⟩ :=
    ((configure_run initial acts).2.1 log "chatty").2.1 opens
  exact ⟨initial, stale.1, stale.2, opens, own, attached, target, level⟩

end Journal

end MarkupLint
