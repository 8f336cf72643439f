import Mathlib.Data.List.Forall2
import Mathlib.Data.List.Induction
import Remap.Log.Session

/-!
# What the outputs of a log are given

Three filters stand between a call and an output: the level of the log, which is looked at before
an event is made of the call and once more when it is emitted, and the level of the output. What
passes them names the file that is bound at that moment. Without the filters: an output takes an
event that reaches both levels (`Session.Takes`), and the file bound at a point of a run is that
of the last step before it that binds one or none (`Session.boundAfter`).

`Session.step_eq` says what one step binds and adds. By induction along a run its deliveries are
the copies of its events, one event after another (`Session.run_eq`), and so each output is given
its own copy of each event that it takes (`Session.run_delivers`).
-/

namespace Remap

/-! ## Events of calls -/

namespace LogCall

/-- The event of a call, whatever its severity. A call that does not fit its method has none. -/
def event? (call : LogCall) : Option Record :=
  if call.method = "log" ∨ call.hasField "event" ∨ call.hasField "self" ∨
      call.hasField "method_name" then none
  else (severity? call.method).map fun severity =>
    ⟨if call.event.isNull then none else some call.event, severity, call.allFields⟩

/-- What a call makes in a log of a level is its event, if that reaches the level. -/
theorem toOption_record? (call : LogCall) (level : Severity) :
    (call.record? level).toOption.join =
      call.event?.filter fun own => level.rank ≤ own.severity.rank := by
  simp only [record?, event?, pure, Except.pure, bind, Except.bind, throw, throwThe,
    MonadExceptOf.throw, Bool.or_eq_true]
  by_cases hmethod : call.method = "log"
  · simp [hmethod, Except.toOption]
  by_cases hreserved : call.hasField "event" ∨ call.hasField "self"
  · cases severity? call.method <;> rcases hreserved with h | h <;>
      simp [hmethod, h, Except.toOption]
  cases severity? call.method with
  | none => simp [hmethod, Except.toOption]
  | some severity =>
      simp only [hmethod, hreserved, ← or_assoc, if_false, false_or, Option.map_some]
      by_cases hlow : severity.rank < level.rank
      · -- Below the level nothing is made, and not all fields are looked at.
        have hbelow : ¬ level.rank ≤ severity.rank := Nat.not_le_of_lt hlow
        rw [if_pos hlow]
        split <;> simp [Except.toOption, Option.filter_some, hbelow]
      · rw [if_neg hlow]
        split <;> simp [Except.toOption, Option.filter_some, Nat.le_of_not_lt hlow]

end LogCall

/-! ## Bound files -/

namespace Record

/-- What a record is emitted as while a file is bound, or none: with a field that names the file,
unless it brings such a field itself or the name is empty. -/
inductive Names (bound : BoundFile) (own : Record) : Record → Prop
  | own : (∀ file ∈ bound, file = "" ∨ (own.fields.lookup fileField).isSome) → Names bound own own
  | file {file : String} : bound = some file → file ≠ "" → own.fields.lookup fileField = none →
      Names bound own { own with fields := own.fields ++ [(fileField, .str file)] }

theorem names_iff {bound : BoundFile} {own record : Record} :
    own.Names bound record ↔ record = own.withFile bound := by
  constructor
  · intro h
    cases h with
    | own hkept =>
        cases bound with
        | none => rfl
        | some file =>
            have hkept := hkept file rfl
            rw [← String.isEmpty_iff, ← Bool.or_eq_true] at hkept
            simp only [withFile, hkept, if_true]
    | @file file hbound hne hnone =>
        have hnamed : ¬ (file.isEmpty || (own.fields.lookup fileField).isSome) = true := by
          rw [Bool.or_eq_true, String.isEmpty_iff, not_or, Option.not_isSome_iff_eq_none]
          exact ⟨hne, hnone⟩
        simp only [withFile, hbound, if_neg hnamed]
  · rintro rfl
    unfold withFile
    split
    · exact .own nofun
    · next file =>
        split
        · next hkept =>
            rw [Bool.or_eq_true, String.isEmpty_iff] at hkept
            refine .own ?_
            rintro _ ⟨⟩
            exact hkept
        · next hnamed =>
            rw [Bool.or_eq_true, String.isEmpty_iff, not_or, Option.not_isSome_iff_eq_none] at hnamed
            exact .file rfl hnamed.1 hnamed.2

theorem severity_withFile (bound : BoundFile) (own : Record) :
    (own.withFile bound).severity = own.severity := by
  unfold withFile
  split
  · rfl
  · split <;> rfl

end Record

namespace Session

/-! ## Copies of a record -/

/-- Whether an output takes a record, which has to reach the level of the log and that of the
output, if it has one. -/
def Takes (settings : LogSettings) (output : LogOutput) (record : Record) : Prop :=
  max settings.level.rank (output.level.getD settings.level).rank ≤ record.severity.rank

instance (settings : LogSettings) (output : LogOutput) (record : Record) :
    Decidable (Takes settings output record) :=
  inferInstanceAs (Decidable (_ ≤ _))

/-- The copies of a record, one for each output that takes it. -/
def copies (settings : LogSettings) (record : Record) : List Delivery :=
  (settings.outputs.zipIdx.filter (Takes settings ·.1 record)).map fun (output, place) =>
    ⟨place, output, record⟩

variable {settings : LogSettings} {output : LogOutput} {record : Record} {place : Nat}

theorem takes_iff :
    Takes settings output record ↔ settings.level.rank ≤ record.severity.rank ∧
      (levelOf settings output).rank ≤ record.severity.rank :=
  Nat.max_le

/-- No output takes what the log itself drops. -/
theorem copies_eq_nil (h : record.severity.rank < settings.level.rank) :
    copies settings record = [] := by
  rw [copies, List.map_eq_nil_iff, List.filter_eq_nil_iff]
  rintro ⟨output, place⟩ - htakes
  exact Nat.not_lt_of_le (takes_iff.mp (of_decide_eq_true htakes)).1 h

theorem deliver_eq_copies (settings : LogSettings) (record : Record) :
    deliver settings record = copies settings record := by
  rw [deliver]
  split
  · next hlow => rw [copies_eq_nil hlow]
  · next hreached => simp only [copies, takes_iff, Nat.le_of_not_lt hreached, true_and]

theorem filter_zipIdx {α : Type} (xs : List α) (start i : Nat) :
    (xs.zipIdx start).filter (·.2 = start + i) = (xs[i]?.map (·, start + i)).toList := by
  induction xs generalizing start i with
  | nil => rfl
  | cons x xs ih =>
      cases i with
      | zero =>
          have hlater : (xs.zipIdx (start + 1)).filter (·.2 = start) = [] := by
            refine List.filter_eq_nil_iff.mpr ?_
            rintro ⟨own, j⟩ hmem hj
            have := List.le_snd_of_mem_zipIdx hmem
            rw [decide_eq_true_eq] at hj
            dsimp only at hj this
            omega
          simp [hlater]
      | succ i =>
          have hlater := ih (start + 1) i
          rw [Nat.add_right_comm, Nat.add_assoc] at hlater
          simp [hlater]

/-- An output has one copy of a record that it takes, and none of another. -/
theorem filter_copies (houtput : settings.outputs[place]? = some output) (record : Record) :
    ((copies settings record).filter (·.place = place)).map Delivery.record =
      [record].filter (Takes settings output) := by
  have hplace := filter_zipIdx settings.outputs 0 place
  rw [Nat.zero_add, houtput] at hplace
  have hkept : ((settings.outputs.zipIdx.filter (Takes settings ·.1 record)).filter
      fun own => own.2 = place) = [(output, place)].filter (Takes settings ·.1 record) := by
    rw [List.filter_comm, hplace]
    rfl
  rw [copies, List.filter_map, List.map_map]
  refine (congrArg (List.map _) hkept).trans ?_
  by_cases htakes : Takes settings output record <;> simp [htakes]

theorem filter_flatMap_copies (houtput : settings.outputs[place]? = some output)
    (records : List Record) :
    ((records.flatMap (copies settings)).filter (·.place = place)).map Delivery.record =
      records.filter (Takes settings output) := by
  induction records with
  | nil => rfl
  | cons record records ih =>
      rw [List.flatMap_cons, List.filter_append, List.map_append, filter_copies houtput, ih,
        ← List.filter_append, List.singleton_append]

/-! ## Runs -/

/-- What a step binds, if it does: a file or none. -/
def Step.binding? : Step → Option BoundFile
  | .bind file => some (some file)
  | .clear => some none
  | .log _ => none

def Step.event? : Step → Option Record
  | .log call => call.event?
  | .bind _ | .clear => none

/-- The file that is bound after some steps: that of the last step that binds one or none. -/
def boundAfter (bound : BoundFile) (steps : List Step) : BoundFile :=
  (steps.filterMap Step.binding?).getLast?.getD bound

/-- The events of a run in order, each with the file that is bound before its step. -/
def emitted (bound : BoundFile) (steps : List Step) : List (BoundFile × Record) :=
  steps.zipIdx.filterMap fun (step, i) =>
    step.event?.map fun own => (boundAfter bound (steps.take i), own)

theorem boundAfter_concat (bound : BoundFile) (steps : List Step) (step : Step) :
    boundAfter bound (steps ++ [step]) = step.binding?.getD (boundAfter bound steps) := by
  rw [boundAfter, List.filterMap_append, List.getLast?_append]
  cases hbinding : step.binding? with
  | none =>
      rw [List.filterMap_cons_none hbinding]
      rfl
  | some binding =>
      rw [List.filterMap_cons_some hbinding]
      rfl

theorem emitted_concat (bound : BoundFile) (steps : List Step) (step : Step) :
    emitted bound (steps ++ [step]) =
      emitted bound steps ++ (step.event?.map (boundAfter bound steps, ·)).toList := by
  have hbefore : ∀ own ∈ steps.zipIdx, (steps ++ [step]).take own.2 = steps.take own.2 := by
    intro own hown
    exact List.take_append_of_le_length (Nat.le_of_lt (List.snd_lt_of_mem_zipIdx hown))
  rw [emitted, List.zipIdx_append, List.filterMap_append, emitted]
  congr 1
  · refine List.filterMap_congr ?_
    intro own hown
    simp only [hbefore own hown]
  · cases hevent : step.event? <;> simp [hevent]

theorem step_log (session : Session) (call : LogCall) :
    session.step (.log call) =
      (call.record? session.settings.level).toOption.join.elim session session.emit := by
  rw [step, log]
  cases call.record? session.settings.level with
  | error _ => rfl
  | ok made? => cases made? <;> rfl

/-- A step binds what it binds, and adds the copies of its event, which names the file that was
bound before. -/
theorem step_eq (session : Session) (step : Step) :
    session.step step =
      { session with
        bound := step.binding?.getD session.bound
        deliveries := session.deliveries ++ step.event?.toList.flatMap fun own =>
          copies session.settings (own.withFile session.bound) } := by
  cases step with
  | bind file => simp [Session.step, Session.bind, Step.binding?, Step.event?]
  | clear => simp [Session.step, Session.clear, Step.binding?, Step.event?]
  | log call =>
      rw [step_log, LogCall.toOption_record?, Step.event?]
      cases call.event? with
      | none => simp [Step.binding?]
      | some own =>
          by_cases hlow : own.severity.rank < session.settings.level.rank
          · have hnone : copies session.settings (own.withFile session.bound) = [] := by
              refine copies_eq_nil ?_
              rw [Record.severity_withFile]
              exact hlow
            simp [Step.binding?, Option.filter_some, hnone, Nat.not_le_of_lt hlow]
          · simp [Step.binding?, Option.filter_some, emit, deliver_eq_copies,
              Nat.le_of_not_lt hlow]

theorem run_eq (settings : LogSettings) (bound : BoundFile) (steps : List Step) :
    run { settings, bound } steps =
      { settings
        bound := boundAfter bound steps
        deliveries := ((emitted bound steps).map fun (bound, own) =>
          own.withFile bound).flatMap (copies settings) } := by
  induction steps using List.reverseRecOn with
  | nil => rfl
  | append_singleton steps step ih =>
      rw [run] at ih ⊢
      rw [List.foldl_append, ih, List.foldl_cons, List.foldl_nil, step_eq, boundAfter_concat,
        emitted_concat, List.map_append, List.flatMap_append]
      cases step.event? with
      | none => rfl
      | some own => simp

/-- Over a run of a log that has just been set up each output is given, once each and in their
order, the events that it takes, and outputs to one destination write their own copies there.
Every event names the file that was bound when it was emitted. -/
theorem run_delivers (settings : LogSettings) (bound : BoundFile) (steps : List Step) :
    let session := run { settings, bound } steps
    ∃ records, List.Forall₂ (fun (bound, own) record => own.Names bound record)
        (emitted bound steps) records ∧
      (∀ place output, settings.outputs[place]? = some output →
        session.received place = records.filter (Takes settings output)) ∧
      (∀ destination, session.writtenTo destination = records.flatMap fun record =>
        (copies settings record).filter (·.output.destination = destination)) ∧
      session.bound = boundAfter bound steps := by
  intro session
  have hsession : session = _ := run_eq settings bound steps
  refine ⟨(emitted bound steps).map fun (bound, own) => own.withFile bound, ?_, ?_, ?_, ?_⟩
  · rw [List.forall₂_map_right_iff]
    refine List.forall₂_same.mpr ?_
    rintro ⟨file, own⟩ -
    exact Record.names_iff.mpr rfl
  · intro place output houtput
    rw [hsession, received]
    exact filter_flatMap_copies houtput _
  · intro destination
    rw [hsession, writtenTo, List.filter_flatMap]
  · rw [hsession]

/-- A log of two outputs to one file, of which the first takes errors only, and one to the
terminal with a level below that of the log. -/
def sharedFile : LogSettings where
  outputs := [{ destination := .file ⟨1, ["a.log"]⟩, level := some .error },
    { destination := .file ⟨1, ["a.log"]⟩ }, { level := some .debug }]

/-- Events that reach some of the levels, on behalf of two files, of none and of one without a
name, and a call of no method. -/
def mixedSteps : List Step :=
  [.log ⟨"info", .str "idle", []⟩, .bind "a.js", .log ⟨"debug", .str "seen", []⟩,
    .log ⟨"error", .str "failed", [("line", .int 3)]⟩, .bind "b.js",
    .log ⟨"warn", .str "odd", [("source_file", .null)]⟩, .log ⟨"shout", .null, []⟩, .clear,
    .log ⟨"msg", .null, []⟩]

theorem run_delivers_sharedFile :
    let session := run { settings := sharedFile, bound := some "" } mixedSteps
    let failed : Record := ⟨some (.str "failed"), .error,
      [("line", .int 3), ("source_file", .str "a.js")]⟩
    sharedFile.outputs[0]? =
        some { destination := .file ⟨1, ["a.log"]⟩, level := some .error } ∧
      session.received 0 = [failed] ∧
      sharedFile.outputs[2]? = some { level := some .debug } ∧
      session.received 2 = [⟨some (.str "idle"), .info, []⟩, failed,
        ⟨some (.str "odd"), .warning, [("source_file", .null)]⟩, ⟨none, .info, []⟩] ∧
      session.bound = none := by
  obtain ⟨records, hnames, hreceived, -, hbound⟩ := run_delivers sharedFile (some "") mixedSteps
  have hrecords : (emitted (some "") mixedSteps).map (fun (bound, own) => own.withFile bound) =
      records := by
    rw [← List.forall₂_eq_eq_eq, List.forall₂_map_left_iff]
    refine hnames.imp ?_
    rintro ⟨bound, own⟩ record hnamed
    exact (Record.names_iff.mp hnamed).symm
  refine ⟨rfl, ?_, rfl, ?_, hbound⟩
  · rw [hreceived 0 _ rfl, ← hrecords]
    rfl
  · rw [hreceived 2 _ rfl, ← hrecords]
    rfl

end Session

end Remap
