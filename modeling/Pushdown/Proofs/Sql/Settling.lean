/-
Module: Pushdown.Proofs.Sql.Settling
Purpose: What a guarded rendering comes to: an answer, its own error, or the error of the guard.
Main exports: Rendering.Settles, Settles.bind, Settles.nested, Settles.inOrder,
  Settles.alternating
-/
import Pushdown.Proofs.Tree
import Pushdown.Sql.Render

namespace Pushdown

/-- Conditions and results that are written already, by turns and with their keywords. -/
def Sql.branches : List Sql → List Sql → Sql
  | condition :: conditions, result :: results =>
    Sql.code " WHEN " ++ condition ++ Sql.code " THEN " ++ result ++
      Sql.branches conditions results
  | [], [otherwise] => Sql.code " ELSE " ++ otherwise
  | _, _ => []

namespace Rendering

/-!
A rendering runs under a limit on nesting, and what it does depends on the limit in one way only:
below its height every rendering fails, and from its height on it always does the same.  `Settles`
says this of a rendering as a function of the limit, together with the level it leaves behind,
which is the level it was started on.  One law per combinator then settles a rendering from its
parts.
-/

/-- A rendering under any limit: it answers with a value if it is sound and the limit leaves room
for its height; if only room is missing, the guard says so; if it is not sound, it fails, and with
one error of its own as soon as there is room. -/
structure Settles {α : Type} (rendering : Nat → Rendering α) (sound : Prop) (height : Nat)
    (value : α) : Prop where
  answers : sound → ∀ limit level, level + height ≤ limit →
    rendering limit level = .ok value level
  overflows : sound → ∀ limit level, level ≤ limit → limit < level + height →
    rendering limit level = .error (.maxRecursion limit) level
  refuses : ¬ sound → ∃ error, (∀ limit, error ≠ .maxRecursion limit) ∧
    ∀ limit level, level + height ≤ limit → rendering limit level = .error error level
  stops : ¬ sound → ∀ limit level, level ≤ limit → limit < level + height →
    ∃ error, rendering limit level = .error error level

variable {α β ι : Type}

/-- Where the first step answers, the second one goes on from its level.  Both are seen here as
functions of the level. -/
theorem bind_ok {first : Rendering α} {next : α → Rendering β} {level after : Nat} {value : α}
    (answered : first level = .ok value after) :
    (first >>= next) level = next value after := by
  change EStateM.bind first next level = _
  rw [EStateM.bind, answered]

theorem bind_error {first : Rendering α} {next : α → Rendering β} {level after : Nat}
    {error : GenerationError} (failed : first level = .error error after) :
    (first >>= next) level = .error error after := by
  change EStateM.bind first next level = _
  rw [EStateM.bind, failed]

namespace Settles

/-- The same rendering, described in other words. -/
theorem congr {rendering : Nat → Rendering α} {sound sound' : Prop} {height height' : Nat}
    {value value' : α} (settles : Settles rendering sound height value)
    (sameSound : sound ↔ sound') (sameHeight : height = height')
    (sameValue : sound' → value = value') : Settles rendering sound' height' value' := by
  subst sameHeight
  refine ⟨fun isSound limit level fits => ?_, fun isSound => ?_, fun unsound => ?_,
    fun unsound => ?_⟩
  · rw [← sameValue isSound]
    exact settles.answers (sameSound.2 isSound) limit level fits
  · exact settles.overflows (sameSound.2 isSound)
  · exact settles.refuses (mt sameSound.1 unsound)
  · exact settles.stops (mt sameSound.1 unsound)

/-- From a level within the limit, every end is on the level of the start. -/
theorem ends {rendering : Nat → Rendering α} {sound : Prop} {height : Nat} {value : α}
    (settles : Settles rendering sound height value) {limit level : Nat}
    (started : level ≤ limit) :
    (∃ answer, rendering limit level = .ok answer level) ∨
      ∃ error, rendering limit level = .error error level := by
  by_cases fits : level + height ≤ limit
  · by_cases isSound : sound
    · exact .inl ⟨_, settles.answers isSound limit level fits⟩
    · obtain ⟨error, _, same⟩ := settles.refuses isSound
      exact .inr ⟨error, same limit level fits⟩
  · by_cases isSound : sound
    · exact .inr ⟨_, settles.overflows isSound limit level started (by omega)⟩
    · exact .inr (settles.stops isSound limit level started (by omega))

/-- A rendering answers if it is sound and there is room for it, and then with its value. -/
theorem eq_ok_iff {rendering : Nat → Rendering α} {sound : Prop} {height : Nat} {value : α}
    (settles : Settles rendering sound height value) {limit level after : Nat} {answer : α}
    (started : level ≤ limit) :
    rendering limit level = .ok answer after ↔
      sound ∧ level + height ≤ limit ∧ answer = value ∧ after = level := by
  by_cases isSound : sound
  · by_cases fits : level + height ≤ limit
    · rw [settles.answers isSound limit level fits]
      simp [isSound, fits, eq_comm]
    · rw [settles.overflows isSound limit level started (by omega)]
      simp [fits]
  · have fails : ∃ error, rendering limit level = .error error level := by
      by_cases fits : level + height ≤ limit
      · obtain ⟨error, _, same⟩ := settles.refuses isSound
        exact ⟨error, same limit level fits⟩
      · exact settles.stops isSound limit level started (by omega)
    obtain ⟨error, failed⟩ := fails
    rw [failed]
    simp [isSound]

/-- A value needs no room. -/
theorem pure (value : α) : Settles (fun _ => Pure.pure value) True 0 value where
  answers _ _ _ _ := rfl
  overflows _ _ _ _ _ := by omega
  refuses unsound := absurd trivial unsound
  stops unsound := absurd trivial unsound

/-- An error that is not the guard's needs no room either. -/
theorem throw (value : α) {error : GenerationError} (own : ∀ limit, error ≠ .maxRecursion limit) :
    Settles (fun _ => throw error) False 0 value where
  answers sound := sound.elim
  overflows sound := sound.elim
  refuses _ := ⟨error, own, fun _ _ _ => rfl⟩
  stops _ _ _ _ _ := ⟨error, rfl⟩

/-- What is refused is refused from any greater height on as well.  The heights of the parts can be
replaced by the greatest of them. -/
theorem raise {rendering : Nat → Rendering α} {height height' : Nat} {value value' : α}
    (refused : Settles rendering False height value) (higher : height ≤ height') :
    Settles rendering False height' value' where
  answers sound := sound.elim
  overflows sound := sound.elim
  refuses unsound := by
    obtain ⟨error, own, same⟩ := refused.refuses unsound
    exact ⟨error, own, fun limit level fits => same limit level (by omega)⟩
  stops unsound limit level started tooDeep := by
    by_cases fits : level + height ≤ limit
    · obtain ⟨error, _, same⟩ := refused.refuses unsound
      exact ⟨error, same limit level fits⟩
    · exact refused.stops unsound limit level started (by omega)

/-- A rendering that first refuses what must not be. -/
theorem guarded {refused : Prop} [Decidable refused] {error : GenerationError}
    {body : Nat → Rendering α} {sound : Prop} {height : Nat} {value : α}
    (own : ∀ limit, error ≠ .maxRecursion limit)
    (otherwise : ¬ refused → Settles body sound height value) :
    Settles (fun limit => if refused then MonadExcept.throw error else body limit)
      (¬ refused ∧ sound) height value := by
  by_cases isRefused : refused
  · simp only [isRefused, if_true, not_true_eq_false, false_and]
    exact (Settles.throw value own).raise (Nat.zero_le height)
  · simpa only [isRefused, if_false, not_false_eq_true, true_and] using otherwise isRefused

/-- A rendering that refuses all but what it accepts. -/
theorem provided {accepted : Prop} [Decidable accepted] {error : GenerationError}
    {body : Nat → Rendering α} {sound : Prop} {height : Nat} {value : α}
    (own : ∀ limit, error ≠ .maxRecursion limit)
    (otherwise : accepted → Settles body sound height value) :
    Settles (fun limit => if accepted then body limit else MonadExcept.throw error)
      (accepted ∧ sound) height value := by
  have settles := guarded own fun notRefused => otherwise (Decidable.not_not.1 notRefused)
  simpa only [ite_not, Decidable.not_not] using settles

/-- An end that is settled already is the one of its outcome. -/
theorem settled {outcome : Except GenerationError Sql} {sound : Prop} {sql : Sql}
    (succeeds : sound → outcome = .ok sql)
    (fails : ¬ sound → ∃ error, (∀ limit, error ≠ .maxRecursion limit) ∧ outcome = .error error) :
    Settles (fun _ => Rendering.settled outcome) sound 0 sql := by
  by_cases isSound : sound
  · rw [succeeds isSound]
    exact (Settles.pure sql).congr (by simp [isSound]) rfl fun _ => rfl
  · obtain ⟨error, own, same⟩ := fails isSound
    rw [same]
    exact (Settles.throw sql own).congr (by simp [isSound]) rfl fun _ => rfl

/-- One rendering after another is sound if both are, and needs room for the higher of both. -/
theorem bind {first : Nat → Rendering α} {next : Nat → α → Rendering β} {sound sound' : Prop}
    {height height' : Nat} {value : α} {value' : β} (before : Settles first sound height value)
    (after : Settles (fun limit => next limit value) sound' height' value') :
    Settles (fun limit => first limit >>= next limit) (sound ∧ sound') (max height height')
      value' where
  answers := by
    rintro ⟨firstSound, nextSound⟩ limit level fits
    rw [bind_ok (before.answers firstSound limit level (by omega))]
    exact after.answers nextSound limit level (by omega)
  overflows := by
    rintro ⟨firstSound, nextSound⟩ limit level started tooDeep
    -- The first step may be within the limit even if both together are not.
    by_cases fits : level + height ≤ limit
    · rw [bind_ok (before.answers firstSound limit level fits)]
      exact after.overflows nextSound limit level started (by omega)
    · exact bind_error (before.overflows firstSound limit level started (by omega))
  refuses := by
    intro unsound
    by_cases firstSound : sound
    · obtain ⟨error, own, same⟩ := after.refuses fun nextSound => unsound ⟨firstSound, nextSound⟩
      refine ⟨error, own, fun limit level fits => ?_⟩
      rw [bind_ok (before.answers firstSound limit level (by omega))]
      exact same limit level (by omega)
    · obtain ⟨error, own, same⟩ := before.refuses firstSound
      exact ⟨error, own, fun limit level fits => bind_error (same limit level (by omega))⟩
  stops := by
    intro unsound limit level started tooDeep
    by_cases fits : level + height ≤ limit
    · by_cases firstSound : sound
      · rw [bind_ok (before.answers firstSound limit level fits)]
        exact after.stops (fun nextSound => unsound ⟨firstSound, nextSound⟩) limit level started
          (by omega)
      · obtain ⟨error, _, same⟩ := before.refuses firstSound
        exact ⟨error, bind_error (same limit level fits)⟩
    · by_cases firstSound : sound
      · exact ⟨_, bind_error (before.overflows firstSound limit level started (by omega))⟩
      · obtain ⟨error, same⟩ := before.stops firstSound limit level started (by omega)
        exact ⟨error, bind_error same⟩

/-- The guard adds one to the height and takes its level back, on success as well as on failure. -/
theorem nested {body : Nat → Rendering Sql} {sound : Prop} {height : Nat} {sql : Sql}
    (inner : Settles body sound height sql) :
    Settles (fun limit => Rendering.nested limit (body limit)) sound (height + 1) sql where
  answers isSound limit level fits := by
    have room : ¬ limit ≤ level := by omega
    simp [Rendering.nested, room, inner.answers isSound limit (level + 1) (by omega)]
  overflows isSound limit level started tooDeep := by
    by_cases full : limit ≤ level
    · simp [Rendering.nested, full]
    · simp [Rendering.nested, full,
        inner.overflows isSound limit (level + 1) (by omega) (by omega)]
  refuses unsound := by
    obtain ⟨error, own, same⟩ := inner.refuses unsound
    refine ⟨error, own, fun limit level fits => ?_⟩
    have room : ¬ limit ≤ level := by omega
    simp [Rendering.nested, room, same limit (level + 1) (by omega)]
  stops unsound limit level started tooDeep := by
    by_cases full : limit ≤ level
    · exact ⟨.maxRecursion limit, by simp [Rendering.nested, full]⟩
    · obtain ⟨error, same⟩ := inner.stops unsound limit (level + 1) (by omega) (by omega)
      exact ⟨error, by simp [Rendering.nested, full, same]⟩

/-- Renderings in order are as sound as all of them, and as high as the highest.  An error ends the
row, so what stands behind it is not rendered. -/
theorem inOrder {rendering : Nat → ι → Rendering Sql} {sound : ι → Prop} {height : ι → Nat}
    {value : ι → Sql} {items : List ι}
    (each : ∀ item ∈ items,
      Settles (fun limit => rendering limit item) (sound item) (height item) (value item)) :
    Settles (fun limit => Rendering.inOrder (items.map (rendering limit)))
      (∀ item ∈ items, sound item) (greatest (items.map height)) (items.map value) := by
  induction items with
  | nil => exact (Settles.pure []).congr (by simp) rfl fun _ => rfl
  | cons first rest inductionHypothesis =>
    have others := inductionHypothesis fun item member => each item (List.mem_cons_of_mem _ member)
    refine Settles.congr ((each first List.mem_cons_self).bind (others.bind (.pure _))) ?_ ?_ ?_
    · simp
    · simp
    · exact fun _ => rfl

/-- One or more renderings with a separator between them.  None at all is an error of its own, which
is given before any part is rendered. -/
theorem oneOrMore {rendering : Nat → ι → Rendering Sql} {sound : ι → Prop} {height : ι → Nat}
    {value : ι → Sql} {items : List ι} (problem : NodeProblem) (separator : String)
    (each : ∀ item ∈ items,
      Settles (fun limit => rendering limit item) (sound item) (height item) (value item)) :
    Settles (fun limit => Rendering.oneOrMore problem separator (items.map (rendering limit)))
      (items ≠ [] ∧ ∀ item ∈ items, sound item) (greatest (items.map height))
      (Sql.separated separator (items.map value)) := by
  simp only [Rendering.oneOrMore, List.isEmpty_map]
  refine Settles.congr (guarded ?_ fun _ => (inOrder each).bind (.pure _)) ?_ ?_ ?_
  · exact fun _ same => by cases same
  · simp
  · simp
  · exact fun _ => rfl

/-- Conditions and results by turns, if there are as many results as conditions or one more. -/
theorem alternating {rendering : Nat → ι → Rendering Sql} {sound : ι → Prop} {height : ι → Nat}
    {value : ι → Sql} {conditions results : List ι}
    (balanced : results.length = conditions.length ∨ results.length = conditions.length + 1)
    (each : ∀ item ∈ conditions ++ results,
      Settles (fun limit => rendering limit item) (sound item) (height item) (value item)) :
    Settles
      (fun limit => Rendering.alternating (conditions.map (rendering limit))
        (results.map (rendering limit)))
      ((∀ item ∈ conditions, sound item) ∧ ∀ item ∈ results, sound item)
      (max (greatest (conditions.map height)) (greatest (results.map height)))
      (Sql.branches (conditions.map value) (results.map value)) := by
  induction conditions generalizing results with
  | nil =>
    match results, balanced with
    | [], _ => exact (Settles.pure []).congr (by simp) rfl fun _ => rfl
    | [otherwise], _ =>
      refine Settles.congr ((each otherwise (by simp)).bind (.pure _)) ?_ ?_ ?_
      · simp
      · simp
      · exact fun _ => rfl
    | _ :: _ :: _, balanced => simp at balanced
  | cons condition conditions inductionHypothesis =>
    match results, balanced with
    | [], balanced => simp at balanced
    | result :: results, balanced =>
      have others := @inductionHypothesis results (by simpa using balanced)
        fun item member => each item (by
          rcases List.mem_append.1 member with here | there
          · simp [here]
          · simp [there])
      refine Settles.congr ((each condition (by simp)).bind
        ((each result (by simp)).bind (others.bind (.pure _)))) ?_ ?_ ?_
      · simp only [List.forall_mem_cons]
        exact ⟨fun ⟨a, b, ⟨cs, rs⟩, _⟩ => ⟨⟨a, cs⟩, b, rs⟩,
          fun ⟨⟨a, cs⟩, b, rs⟩ => ⟨a, b, ⟨cs, rs⟩, trivial⟩⟩
      · simp only [List.map_cons, greatest_cons, Nat.max_zero]
        omega
      · exact fun _ => rfl

end Settles

end Rendering

end Pushdown
