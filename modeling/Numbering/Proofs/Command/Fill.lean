import Numbering.Command
import Numbering.Proofs.Command.Files
import Numbering.Proofs.Profile.Fill

/-! # Filling a file

Filling a file has one write, and it is the last step: a run that fails leaves the files as they
were, a run that prints does so too, and a run in place leaves the text that would have been printed
(`fillOutcome_inPlace_iff`). The first fault counts: a file that cannot be read, then a text that is
no expression, then an edit.
-/

namespace Numbering

namespace Command

namespace FileSteps

variable {α β : Type}

theorem run_bind (steps : FileSteps α) (next : α → FileSteps β) (files : Files) :
    (steps >>= next).run.run files =
      match steps.run.run files with
      | (.ok value, after) => (next value).run.run after
      | (.error error, after) => (.error error, after) := by
  rw [ExceptT.run_bind, StateT.run_bind]
  obtain ⟨outcome, after⟩ := steps.run.run files
  cases outcome <;> rfl

theorem run_get (files : Files) : (get : FileSteps Files).run.run files = (.ok files, files) :=
  rfl

theorem run_lift (outcome : Except CommandError α) (files : Files) :
    (liftM outcome : FileSteps α).run.run files = (outcome, files) := by
  cases outcome <;> rfl

end FileSteps

variable {profile : Profile} {text input path content filled : Text} {files : Files}
  {places : Places}

theorem fillSource_of_read (isFile : path ≠ ['-']) (found : files.read path = .ok content) :
    fillSource profile text files input path places =
      (profile.fill text content (places.targets content)).mapError .fill := by
  have source : readSource files input path = .ok content := by
    rw [readSource, if_neg isFile, found]
  simp only [fillSource, source, bind, Except.bind]
  cases profile.fill text content (places.targets content) <;> rfl

theorem fillSource_of_absent {reason : String} (isFile : path ≠ ['-'])
    (absent : files.read path = .error reason) :
    fillSource profile text files input path places = .error (.inaccessible path reason) := by
  have source : readSource files input path = .error (.inaccessible path reason) := by
    rw [readSource, if_neg isFile, absent]
  rw [fillSource, source]
  rfl

/-- A file is filled, or refused, as its content is; it needs one. -/
theorem fillSource_eq_iff (isFile : path ≠ ['-']) (result : Except FillError Text) :
    fillSource profile text files input path places = result.mapError .fill ↔
      ∃ content, files.read path = .ok content ∧
        profile.fill text content (places.targets content) = result := by
  cases found : files.read path with
  | error reason =>
    rw [fillSource_of_absent isFile found]
    cases result <;> simp [Except.mapError]
  | ok content =>
    simp only [fillSource_of_read isFile found, Except.ok.injEq, exists_eq_left']
    cases profile.fill text content (places.targets content) <;> cases result <;>
      simp [Except.mapError]

theorem fillOutcome_of_error {error : CommandError}
    (failed : fillSource profile text files input path places = .error error) (inPlace : Bool) :
    fillOutcome profile text files input path places inPlace = (.error error, files) := by
  rw [fillOutcome, fillFile, FileSteps.run_bind, FileSteps.run_get]
  dsimp only
  rw [FileSteps.run_bind, FileSteps.run_lift, failed]

theorem fillOutcome_of_ok (isFile : path ≠ ['-'])
    (done : fillSource profile text files input path places = .ok filled) (inPlace : Bool) :
    fillOutcome profile text files input path places inPlace =
      if inPlace then (.ok [], files.write path filled) else (.ok filled, files) := by
  rw [fillOutcome, fillFile, FileSteps.run_bind, FileSteps.run_get]
  dsimp only
  rw [FileSteps.run_bind, FileSteps.run_lift, done]
  dsimp only
  cases inPlace with
  | false => rfl
  | true =>
    rw [if_pos ⟨rfl, isFile⟩]
    rfl

/-- A run without a place to write to changes nothing and prints what the content turns into. -/
theorem fillOutcome_print_iff (isFile : path ≠ ['-']) {printed : Text} {after : Files} :
    fillOutcome profile text files input path places false = (.ok printed, after) ↔
      after = files ∧ ∃ content, files.read path = .ok content ∧
        profile.fill text content (places.targets content) = .ok printed := by
  rw [← fillSource_eq_iff isFile (.ok printed)]
  cases outcome : fillSource profile text files input path places with
  | error error => simp [fillOutcome_of_error outcome, Except.mapError]
  | ok filled =>
    rw [fillOutcome_of_ok isFile outcome]
    simp [Except.mapError, and_comm, eq_comm]

/-- A run in place prints nothing and writes what the same run without a place to write to prints. -/
theorem fillOutcome_inPlace_iff (isFile : path ≠ ['-']) {printed : Text} {after : Files} :
    fillOutcome profile text files input path places true = (.ok printed, after) ↔
      printed = [] ∧ ∃ filled,
        fillOutcome profile text files input path places false = (.ok filled, files) ∧
          after = files.write path filled := by
  cases outcome : fillSource profile text files input path places with
  | error error => simp [fillOutcome_of_error outcome]
  | ok filled =>
    rw [fillOutcome_of_ok isFile outcome, fillOutcome_of_ok isFile outcome]
    simp [eq_comm]

/-- Both runs fail alike, and leave the files alone. -/
theorem fillOutcome_error_iff (isFile : path ≠ ['-']) (inPlace : Bool) {error : CommandError}
    {after : Files} :
    fillOutcome profile text files input path places inPlace = (.error error, after) ↔
      after = files ∧ fillSource profile text files input path places = .error error := by
  cases outcome : fillSource profile text files input path places with
  | error error => simp [fillOutcome_of_error outcome, and_comm, eq_comm]
  | ok filled =>
    rw [fillOutcome_of_ok isFile outcome]
    cases inPlace <;> simp

/-- Filling a file, by what it returns and what the files hold after it. A run that fails leaves the
files as they were. A run that prints leaves them so too, and prints the content filled at its
targets. A run in place prints nothing, leaves that text in the file, and succeeds where the run
that prints does. A file that cannot be read is reported whatever else is wrong, then a text that is
no expression, and an edit is at fault only if neither is. -/
theorem fillOutcome_frame (isFile : path ≠ ['-']) (profile : Profile) (text input : Text)
    (places : Places) (files : Files) :
    (∀ inPlace error after,
      fillOutcome profile text files input path places inPlace = (.error error, after) →
        after = files) ∧
    (∀ printed after,
      fillOutcome profile text files input path places false = (.ok printed, after) ↔
        after = files ∧ ∃ content, files.read path = .ok content ∧
          profile.fill text content (places.targets content) = .ok printed) ∧
    (∀ printed after,
      fillOutcome profile text files input path places true = (.ok printed, after) →
        printed = [] ∧ ∃ filled,
          fillOutcome profile text files input path places false = (.ok filled, files) ∧
            after.read path = .ok filled ∧
            ∀ other, Files.normalPath other ≠ Files.normalPath path →
              after.read other = files.read other) ∧
    ((∃ printed after,
        fillOutcome profile text files input path places true = (.ok printed, after)) ↔
      ∃ printed after,
        fillOutcome profile text files input path places false = (.ok printed, after)) ∧
    (∀ inPlace reason, files.read path = .error reason →
      fillOutcome profile text files input path places inPlace =
        (.error (.inaccessible path reason), files)) ∧
    (∀ inPlace content reason, files.read path = .ok content →
      profile.read text = .error reason →
        fillOutcome profile text files input path places inPlace =
          (.error (.fill (.rejected reason)), files)) ∧
    ∀ inPlace fault after,
      fillOutcome profile text files input path places inPlace =
          (.error (.fill (.edit fault)), after) →
        ∃ content expression, files.read path = .ok content ∧
          profile.read text = .ok expression ∧
          Buffer.apply content (expression.plan profile.alphabet (places.targets content)) =
            .error fault := by
  refine ⟨?unchanged, fun _ _ => fillOutcome_print_iff isFile, ?inPlace, ?alike, ?absent,
    ?rejected, ?edit⟩
  case unchanged =>
    intro inPlace error after failed
    exact ((fillOutcome_error_iff isFile inPlace).mp failed).1
  case inPlace =>
    intro printed after done
    obtain ⟨rfl, filled, shown, rfl⟩ := (fillOutcome_inPlace_iff isFile).mp done
    obtain ⟨-, content, found, -⟩ := (fillOutcome_print_iff isFile).mp shown
    exact ⟨rfl, filled, shown, Files.read_write found, fun other apart =>
      Files.read_write_of_ne apart⟩
  case alike =>
    constructor
    · rintro ⟨printed, after, done⟩
      obtain ⟨-, filled, shown, -⟩ := (fillOutcome_inPlace_iff isFile).mp done
      exact ⟨filled, files, shown⟩
    · rintro ⟨filled, after, shown⟩
      obtain rfl : after = files := ((fillOutcome_print_iff isFile).mp shown).1
      exact ⟨[], after.write path filled,
        (fillOutcome_inPlace_iff isFile).mpr ⟨rfl, filled, shown, rfl⟩⟩
  case absent =>
    intro inPlace reason absent
    exact fillOutcome_of_error (fillSource_of_absent isFile absent) inPlace
  case rejected =>
    intro inPlace content reason found rejected
    have failed : fillSource profile text files input path places =
        .error (.fill (.rejected reason)) := by
      rw [fillSource_of_read isFile found, Profile.fill_of_rejected rejected]
      rfl
    exact fillOutcome_of_error failed inPlace
  case edit =>
    intro inPlace fault after failed
    obtain ⟨-, failed⟩ := (fillOutcome_error_iff isFile inPlace).mp failed
    obtain ⟨content, found, refused⟩ := (fillSource_eq_iff isFile (.error (.edit fault))).mp failed
    obtain ⟨expression, reads, faulty⟩ := Profile.exists_read_of_fill_eq_edit refused
    exact ⟨content, expression, found, reads, faulty⟩

/-- A marker is replaced in place, and the file next to it keeps its own. -/
theorem fillOutcome_frame_marker :
    ['f'] ≠ ['-'] ∧ ∃ after,
      fillOutcome ⟨.latin, .standard⟩ ['7']
          [(['f'], .content ['a', '_']), (['g'], .content ['_'])] [] ['f'] (.marker ['_']) true =
        (.ok [], after) ∧
      after.read ['f'] = .ok ['a', '7'] ∧ after.read ['g'] = .ok ['_'] := by
  have isFile : (['f'] : Text) ≠ ['-'] := by decide
  obtain ⟨-, -, inPlace, alike, -⟩ := fillOutcome_frame isFile ⟨.latin, .standard⟩ ['7'] []
    (.marker ['_']) [(['f'], .content ['a', '_']), (['g'], .content ['_'])]
  have reads : (Profile.mk .latin .standard).read ['7'] = .ok (.ofStart (.numeric 7)) := by decide
  have values : (Expression.ofStart (.numeric 7)).values .latin 1 = [['7']] :=
    Expression.values_ofStart_digits .latin (by decide)
  have found : [⟨⟨⟨0, 1⟩, ⟨0, 2⟩⟩, ['7']⟩].mapM (Buffer.place (Buffer.lineSpans ['a', '_'])) =
      .ok [⟨⟨1, 2⟩, ⟨⟨0, 1⟩, ⟨0, 2⟩⟩, ['7']⟩] := by decide
  have filled : (Profile.mk .latin .standard).fill ['7'] ['a', '_'] [⟨⟨0, 1⟩, ⟨0, 2⟩⟩] =
      .ok ['a', '7'] :=
    Profile.fill_of_sorted reads (by decide) values found (by decide) rfl rfl
  have shown : fillOutcome ⟨.latin, .standard⟩ ['7']
      [(['f'], .content ['a', '_']), (['g'], .content ['_'])] [] ['f'] (.marker ['_']) false =
        (.ok ['a', '7'], [(['f'], .content ['a', '_']), (['g'], .content ['_'])]) :=
    (fillOutcome_print_iff isFile).mpr ⟨rfl, ['a', '_'], by decide, filled⟩
  obtain ⟨printed, after, done⟩ := alike.mpr ⟨_, _, shown⟩
  obtain ⟨rfl, filled, same, written, others⟩ := inPlace printed after done
  obtain rfl : ['a', '7'] = filled := by
    rw [shown] at same
    simpa using same
  exact ⟨isFile, after, done, written, others ['g'] (by decide)⟩

end Command

end Numbering
