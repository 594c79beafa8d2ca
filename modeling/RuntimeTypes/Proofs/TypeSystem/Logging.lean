import RuntimeTypes.Proofs.TypeSystem.Correspondence
import RuntimeTypes.Proofs.TypeSystem.Requests
import RuntimeTypes.Proofs.TypeSystem.Runs

/-!
What the logger can change.  Programs whose loggers differ give the same answers
and do the same; they differ in what is written, and there a lower level only
leaves lines out, and colours only frame the tags.
-/

namespace RuntimeTypes

theorem Level.le_trace (level : Level) : level ≤ .trace := by
  cases level <;> decide

namespace Line

/-- The line as it is without colours. -/
def plain (line : Line) : Line :=
  { line with colored := false }

/-- The line is the plain line, in which at most the level in brackets is framed:
by the escape of its colour and the reset. -/
def FramesTag (line : Line) : Prop :=
  let bracket := s!"[{line.event.level.name}]"
  ∃ rest, line.plain.text = bracket ++ rest ∧
    line.text =
      if line.colored then
        s!"\x1b[{line.event.level.colour}m" ++ bracket ++ "\x1b[0m" ++ rest
      else bracket ++ rest

theorem framesTag (line : Line) : line.FramesTag := by
  obtain ⟨event, colored⟩ := line
  let bracket := "[" ++ event.level.name ++ "]"
  have plain : (Line.mk event false).text =
      bracket ++ (" " ++ event.target ++ ": " ++ event.text) := by
    change bracket ++ " " ++ event.target ++ ": " ++ event.text = _
    simp only [String.append_assoc]
  refine ⟨" " ++ event.target ++ ": " ++ event.text, plain, ?_⟩
  cases colored with
  | false => exact plain
  | true =>
      have opening : "m[" = "m" ++ "[" := by decide
      have closing : "]\x1b[0m" = "]" ++ "\x1b[0m" := by decide
      change ("\x1b[" ++ event.level.colour ++ "m[" ++ event.level.name ++ "]\x1b[0m") ++ " " ++
          event.target ++ ": " ++ event.text =
        ("\x1b[" ++ event.level.colour ++ "m") ++ ("[" ++ event.level.name ++ "]") ++ "\x1b[0m" ++
          (" " ++ event.target ++ ": " ++ event.text)
      simp only [String.append_assoc, opening, closing]

end Line

namespace TypeSystem

variable {β : Type} {view : Line → β} {low : Level} {s t s₀ t₀ : TypeSystem}
  {ops : List Operation}

theorem logger_report (s : TypeSystem) (event : Event) : (s.report event).logger = s.logger := by
  rw [report_eq]

theorem log_report (s : TypeSystem) (event : Event) :
    (s.report event).log.toList = s.log.toList ++ (s.logger.line? event).toList := by
  unfold report
  cases s.logger.line? event with
  | none => simp
  | some line => simp

/-- A run beside the same run at the finest level, seen through a view of lines
that colours do not disturb.  The levels are those of the start as long as
nothing sets them, and equal from then on. -/
structure Quieter (view : Line → β) (low : Level) (s₀ t₀ s t : TypeSystem) : Prop where
  same : s.SameButLog t
  seen : ∀ event, view ⟨event, s.logger.colored⟩ = view ⟨event, t.logger.colored⟩
  levels : s.logger.level = low ∧ t.logger.level = .trace ∨ s.logger.level = t.logger.level
  lines : ∃ few many, s.log.toList = s₀.log.toList ++ few ∧ t.log.toList = t₀.log.toList ++ many ∧
    (low = .trace ∨ s.logger.level ≠ t.logger.level →
      few.map view = (many.filter fun line => line.event.level ≤ low).map view)

namespace Quieter

/-- What one report adds on either side. -/
theorem line?_eq (quieter : Quieter view low s₀ t₀ s t) (event : Event)
    (live : low = .trace ∨ s.logger.level ≠ t.logger.level) :
    (s.logger.line? event).toList.map view =
      ((t.logger.line? event).toList.filter fun line => line.event.level ≤ low).map view := by
  have fine := event.level.le_trace
  rcases quieter.levels with ⟨left, right⟩ | equal
  · simp only [Logger.line?, Logger.isEnabled, left, right, fine, decide_true, if_true]
    by_cases written : event.level ≤ low
    · simp [written, quieter.seen event]
    · simp [written]
  · obtain rfl : low = .trace := live.resolve_right fun differ => differ equal
    simp only [Logger.line?, Logger.isEnabled, equal]
    by_cases written : event.level ≤ t.logger.level
    · simp [written, fine, quieter.seen event]
    · simp [written]

theorem report (quieter : Quieter view low s₀ t₀ s t) (event : Event) :
    Quieter view low s₀ t₀ (s.report event) (t.report event) where
  same := sharesClasses_sameButLog.report quieter.same event
  seen other := by
    rw [logger_report, logger_report]
    exact quieter.seen other
  levels := by
    rw [logger_report, logger_report]
    exact quieter.levels
  lines := by
    obtain ⟨few, many, left, right, lines⟩ := quieter.lines
    refine ⟨few ++ (s.logger.line? event).toList, many ++ (t.logger.line? event).toList, ?_, ?_, ?_⟩
    · rw [log_report, left, List.append_assoc]
    · rw [log_report, right, List.append_assoc]
    · rw [logger_report, logger_report]
      intro live
      rw [List.map_append, List.filter_append, List.map_append, lines live,
        quieter.line?_eq event live]

/-- From now on both sides have one level; then only lines at the finest level are compared. -/
theorem setLevel (quieter : Quieter view low s₀ t₀ s t) (level : Level) :
    Quieter view low s₀ t₀ (s.setLevel level) (t.setLevel level) where
  same := sharesClasses_sameButLog.setLevel quieter.same level
  seen := quieter.seen
  levels := .inr rfl
  lines := by
    obtain ⟨few, many, left, right, lines⟩ := quieter.lines
    refine ⟨few, many, left, right, ?_⟩
    intro live
    exact lines (.inl (live.resolve_right fun differ => differ rfl))

theorem setColored (quieter : Quieter view low s₀ t₀ s t) (colored : Bool) :
    Quieter view low s₀ t₀ (s.setColored colored) (t.setColored colored) :=
  { quieter with
    same := sharesClasses_sameButLog.setColored quieter.same colored
    seen := fun _ => rfl }

end Quieter

theorem sharesClasses_quieter : SharesClasses (Quieter view low s₀ t₀) where
  store quieter := quieter.same.store
  global quieter := quieter.same.global
  isolated quieter := quieter.same.isolated
  config quieter := quieter.same.config
  setStore quieter store? :=
    { quieter with same := sharesClasses_sameButLog.setStore quieter.same store? }
  setGlobal quieter global? :=
    { quieter with same := sharesClasses_sameButLog.setGlobal quieter.same global? }
  setIsolated quieter isolated :=
    { quieter with same := sharesClasses_sameButLog.setIsolated quieter.same isolated }
  setConfig quieter config? :=
    { quieter with same := sharesClasses_sameButLog.setConfig quieter.same config? }
  setLevel := Quieter.setLevel
  setColored := Quieter.setColored
  report := Quieter.report
  known quieter := quieter.same.known
  remember quieter c outcome :=
    { quieter with same := quieter.same.remember c outcome }

theorem matches_run_of_shares {R : TypeSystem → TypeSystem → Prop} (shares : SharesClasses R)
    (admitted : s.AdmitsAll ops) (sound : s.Sound) (related : R s t) :
    Matches R (s.performAll ops) (t.performAll ops) :=
  matches_performAll shares.toShares (fun c _ related => shares.descriptorOf related c) admitted
    sound related

/-- What a run writes at its own level is what the same run writes at the finest
level, without the lines that are less severe. -/
theorem lines_filtered (view : Line → β) (admitted : s.AdmitsAll ops) (sound : s.Sound)
    (same : s.SameButLog t)
    (seen : ∀ event, view ⟨event, s.logger.colored⟩ = view ⟨event, t.logger.colored⟩)
    (finest : t.logger.level = .trace)
    (steady : (s.performAll ops).2.logger.level = s.logger.level)
    (steady' : (t.performAll ops).2.logger.level = .trace) :
    ∃ few many, (s.performAll ops).2.log.toList = s.log.toList ++ few ∧
      (t.performAll ops).2.log.toList = t.log.toList ++ many ∧
      few.map view =
        (many.filter fun line => line.event.level ≤ s.logger.level).map view := by
  have start : Quieter view s.logger.level s t s t :=
    ⟨same, seen, .inl ⟨rfl, finest⟩, [], [], by simp, by simp, fun _ => rfl⟩
  have quieter := (matches_run_of_shares sharesClasses_quieter admitted sound start).state
  obtain ⟨few, many, left, right, lines⟩ := quieter.lines
  refine ⟨few, many, left, right, lines ?_⟩
  rw [steady, steady']
  exact em _

/-- Logging never influences the runtime, and the level only filters.  Programs
that start with different loggers answer the same and are at all times in states
that differ only in the logger and in what was written.  Where one of them ends
at its first level and the other at the finest, nothing has changed their levels:
then the one has written the lines of the other that are severe enough, in order
and up to colours; and colours do no more than frame the tags. -/
theorem logging_only_filters (reachable : s.Reachable) (same : s.SameButLog t)
    (admitted : s.AdmitsAll ops) :
    (t.performAll ops).1 = (s.performAll ops).1 ∧
      (∀ i, (s.stateAt ops i).SameButLog (t.stateAt ops i)) ∧
      (t.logger.level = .trace → (t.performAll ops).2.logger.level = .trace →
        (s.performAll ops).2.logger.level = s.logger.level →
          ∃ few many, (s.performAll ops).2.log.toList = s.log.toList ++ few ∧
            (t.performAll ops).2.log.toList = t.log.toList ++ many ∧
            few.map Line.plain =
              (many.filter fun line => line.event.level ≤ s.logger.level).map Line.plain ∧
            (s.logger.colored = t.logger.colored →
              few = many.filter fun line => line.event.level ≤ s.logger.level)) ∧
      ∀ line : Line, line.FramesTag := by
  have sound := reachable.sound
  refine ⟨?_, ?_, ?_, Line.framesTag⟩
  · exact (matches_run_of_shares sharesClasses_sameButLog admitted sound same).answer
  · intro i
    exact (matches_run_of_shares sharesClasses_sameButLog (admitted.take i) sound same).state
  · intro finest steady' steady
    obtain ⟨few, many, left, right, lines⟩ :=
      lines_filtered Line.plain admitted sound same (fun _ => rfl) finest steady steady'
    refine ⟨few, many, left, right, lines, ?_⟩
    intro colours
    obtain ⟨few', many', left', right', lines'⟩ :=
      lines_filtered id admitted sound same (fun _ => by rw [colours]) finest steady steady'
    rw [left] at left'
    rw [right] at right'
    obtain rfl := List.append_cancel_left left'
    obtain rfl := List.append_cancel_left right'
    simpa using lines'

/-- A program that is refused a definition and settings. -/
def refusals : List Operation :=
  [.addRegistry .any, .define (.isolated 0) { name := "Type" },
    .define (.isolated 0) { name := "Type", fields := [⟨"x", "int"⟩] }, .describe .root,
    .configure { rootPolicy := .any }]

/-- The same start with a logger that writes everything, without colours. -/
def verbose : TypeSystem :=
  { start {} with logger := ⟨.trace, false⟩ }

theorem logging_only_filters_refusals :
    (start {}).Reachable ∧ (start {}).SameButLog verbose ∧ (start {}).AdmitsAll refusals ∧
      (start {}).logger.level = .warn ∧
      (verbose.performAll refusals).1 = ((start {}).performAll refusals).1 ∧
      ((start {}).performAll refusals).2.log.toList.map Line.plain =
        ((verbose.performAll refusals).2.log.toList.filter fun line =>
          line.event.level ≤ .warn).map Line.plain ∧
      (verbose.performAll refusals).2.log.toList.map (fun line => line.event.level) =
        [.debug, .warn, .debug, .warn] := by
  have reachable : (start {}).Reachable := ⟨{}, .refl⟩
  have same : (start {}).SameButLog verbose := ⟨rfl, rfl, rfl, rfl, rfl, rfl⟩
  have admitted : (start {}).AdmitsAll refusals := by
    decide +kernel
  have level : (start {}).logger.level = .warn := by
    decide +kernel
  obtain ⟨answers, _, filtered, _⟩ := logging_only_filters reachable same admitted
  obtain ⟨few, many, left, right, lines, _⟩ :=
    filtered rfl (by decide +kernel) (by decide +kernel)
  refine ⟨reachable, same, admitted, level, answers, ?_, by decide +kernel⟩
  rw [left, right]
  rw [level] at lines
  exact lines

end TypeSystem

end RuntimeTypes
