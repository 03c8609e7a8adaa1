import SynthGraph.Proofs.Session.Logging

/-!
# What runs record

A run adds records to those that are there and takes none away.  Which ones it adds goes with its
outcome and not with the session that it starts from: what is said here of a run holds from every
session, and is put together from what its parts record.  Some runs do nothing else.
-/

namespace SynthGraph

variable {α β : Type} {s : Session}

/-- Writing a record adds it at the end. -/
@[simp] lemma Session.records_log (s : Session) (r : Record) :
    (s.log r).records.toList = s.records.toList ++ [r] := by
  simp [log, appendToLogs_eq]

/-- The records of errors. -/
def errorRecords (rs : List Record) : List Record := rs.filter (·.level == .error)

/-- The records of one list after another. -/
@[simp] lemma errorRecords_append (rs rs' : List Record) :
    errorRecords (rs ++ rs') = errorRecords rs ++ errorRecords rs' :=
  List.filter_append ..

/-- A record is the only one of an error, and the last one of all. -/
def EndsInError (rs : List Record) (r : Record) : Prop :=
  r.level = .error ∧ ∃ before, rs = before ++ [r] ∧ errorRecords before = []

/-- There is one record of an error. -/
lemma EndsInError.errorRecords_eq {rs : List Record} {r : Record} (h : EndsInError rs r) :
    errorRecords rs = [r] := by
  obtain ⟨hlevel, before, rfl, hbefore⟩ := h
  rw [errorRecords_append, hbefore]
  simp [errorRecords, hlevel]

/-- Records without errors may come before. -/
lemma EndsInError.append_left {rs rs' : List Record} {r : Record} (h : EndsInError rs' r)
    (hrs : errorRecords rs = []) : EndsInError (rs ++ rs') r := by
  obtain ⟨hlevel, before, rfl, hbefore⟩ := h
  refine ⟨hlevel, rs ++ before, (List.append_assoc ..).symm, ?_⟩
  rw [errorRecords_append, hrs, hbefore]
  rfl

/-- Records of details only. -/
def Details (rs : List Record) : Prop := ∀ r ∈ rs, r.level = .debug

/-- Details are no errors. -/
lemma Details.errorRecords_eq {rs : List Record} (h : Details rs) : errorRecords rs = [] :=
  List.filter_eq_nil_iff.mpr fun r hr => by simp [h r hr]

/-- Details after details. -/
lemma Details.append {rs rs' : List Record} (h : Details rs) (h' : Details rs') :
    Details (rs ++ rs') :=
  List.forall_mem_append.mpr ⟨h, h'⟩

namespace Run

/-- From every session, a run adds records that go with its outcome. -/
def Records (r : Run α) (P : Except Failure α → List Record → Prop) : Prop :=
  ∀ s, ∃ rs, (r.apply s).2.records.toList = s.records.toList ++ rs ∧ P (r.apply s).1 rs

variable {r : Run α} {P P' : Except Failure α → List Record → Prop}

namespace Records

/-- Less can be said of what a run records. -/
lemma mono (h : r.Records P) (himp : ∀ o rs, P o rs → P' o rs) : r.Records P' := by
  intro s
  obtain ⟨rs, hrs, hP⟩ := h s
  exact ⟨rs, hrs, himp _ _ hP⟩

/-- Something more is known of the outcome. -/
lemma withOutcome (h : r.Records P) {Q : Except Failure α → Prop} (hQ : ∀ s, Q (r.apply s).1) :
    r.Records fun o rs => Q o ∧ P o rs := by
  intro s
  obtain ⟨rs, hrs, hP⟩ := h s
  exact ⟨rs, hrs, hQ s, hP⟩

/-- Nothing is recorded when a value is returned. -/
lemma pure {a : α} (h : P (.ok a) []) : (Pure.pure a : Run α).Records P :=
  fun _ => ⟨[], (List.append_nil _).symm, h⟩

/-- One record is written. -/
lemma log {P : Except Failure Unit → List Record → Prop} {level : Level} {source : Source}
    {message : String} (h : P (.ok ()) [⟨level, source, message⟩]) :
    (Run.log level source message).Records P :=
  fun s => ⟨_, Session.records_log s _, h⟩

/-- Nothing is recorded by something that may have a fault. -/
lemma ofFault {x : Except Fault α} (h : P (x.mapError .fault) []) : (Run.ofFault x).Records P := by
  intro s
  rw [apply_ofFault]
  exact ⟨[], (List.append_nil _).symm, h⟩

/-- A sequence records what its first part does, and, when that succeeds, what the rest does. -/
lemma bind {f : α → Run β} {Q : Except Failure β → List Record → Prop} (h : r.Records P)
    (herror : ∀ e rs, P (.error e) rs → Q (.error e) rs)
    (hok : ∀ a rs, P (.ok a) rs → (f a).Records fun o rs' => Q o (rs ++ rs')) :
    (r >>= f).Records Q := by
  intro s
  obtain ⟨rs, hrs, hP⟩ := h s
  rw [apply_bind]
  rcases hr : r.apply s with ⟨e | a, s'⟩ <;> rw [hr] at hrs hP
  · exact ⟨rs, hrs, herror e rs hP⟩
  · obtain ⟨rs', hrs', hQ⟩ := hok a rs hP s'
    exact ⟨rs ++ rs', by rw [hrs', hrs, List.append_assoc], hQ⟩

/-- A value that is put into another one. -/
lemma map {f : α → β} {Q : Except Failure β → List Record → Prop} (h : r.Records P)
    (herror : ∀ e rs, P (.error e) rs → Q (.error e) rs)
    (hok : ∀ a rs, P (.ok a) rs → Q (.ok (f a)) rs) :
    (r >>= fun a => Pure.pure (f a)).Records Q :=
  h.bind herror fun a rs ha => .pure (by simpa using hok a rs ha)

end Records

/-- Whatever its outcome, a run records nothing but details. -/
def Quiet (r : Run α) : Prop := r.Records fun _ rs => Details rs

namespace Quiet

lemma pure (a : α) : Quiet (Pure.pure a : Run α) := Records.pure nofun

lemma log (source : Source) (message : String) : Quiet (Run.log .debug source message) :=
  Records.log fun _ hr => by rw [List.mem_singleton.mp hr]

lemma ofFault (x : Except Fault α) : Quiet (Run.ofFault x) := Records.ofFault nofun

/-- A sequence is quiet when its parts are. -/
lemma bind {f : α → Run β} (h : Quiet r) (hf : ∀ a, Quiet (f a)) : Quiet (r >>= f) :=
  Records.bind h (fun _ _ hrs => hrs) fun a _ hrs => (hf a).mono fun _ _ hrs' => hrs.append hrs'

end Quiet

/-! ### Runs that only write records -/

/-- A run that does nothing to the session but write records. -/
def OnlyRecords (r : Run α) : Prop := ∀ s, ∃ rs, (r.apply s).2 = s.logAll rs

namespace OnlyRecords

lemma pure (a : α) : OnlyRecords (Pure.pure a : Run α) := fun _ => ⟨[], rfl⟩

lemma throw (f : Failure) : OnlyRecords (MonadExcept.throw f : Run α) := fun _ => ⟨[], rfl⟩

lemma get : OnlyRecords (MonadState.get : Run Session) := fun _ => ⟨[], rfl⟩

lemma log (level : Level) (source : Source) (message : String) :
    OnlyRecords (Run.log level source message) := fun _ => ⟨[_], rfl⟩

lemma ofFileFault (x : Except FileFault α) : OnlyRecords (Run.ofFileFault x) :=
  fun _ => ⟨[], by rw [apply_ofFileFault]; rfl⟩

/-- A sequence of such runs is one. -/
lemma bind {r : Run α} {f : α → Run β} (h : OnlyRecords r) (hf : ∀ a, OnlyRecords (f a)) :
    OnlyRecords (r >>= f) := by
  intro s
  obtain ⟨rs, hrs⟩ := h s
  rw [apply_bind]
  rcases hr : r.apply s with ⟨e | a, s'⟩ <;> rw [hr] at hrs
  · exact ⟨rs, hrs⟩
  · obtain ⟨rs', hrs'⟩ := hf a s'
    refine ⟨rs ++ rs', ?_⟩
    change ((f a).apply s').2 = _
    rw [hrs', Session.logAll_append]
    exact congrArg (Session.logAll · rs') hrs

end OnlyRecords

end Run

end SynthGraph
