import ClientGen.Files.WriteAll

/-!
The paths that a write reports, whatever the files are that it acts on.
-/

set_option autoImplicit false

namespace ClientGen

variable {Step : Type → Type} [Monad Step]

/-- Every value that a step yields has a property: what comes after it need not care for others. -/
structure Yields {Value : Type} (property : Value → Prop) (step : Step Value) : Prop where
  bind_congr : ∀ {Result : Type} (next other : Value → Step Result),
    (∀ value, property value → next value = other value) → step >>= next = step >>= other

namespace Yields

variable {Value Next : Type} {property : Value → Prop} {later : Next → Prop} {step : Step Value}

theorem any (step : Step Value) : Yields (fun _ => True) step where
  bind_congr _ _ same := congrArg _ (funext fun value => same value trivial)

variable [LawfulMonad Step]

theorem pure {value : Value} (holds : property value) :
    Yields property (Pure.pure value : Step Value) where
  bind_congr next other same := by rw [pure_bind, pure_bind, same value holds]

theorem bind {next : Value → Step Next} (first : Yields property step)
    (second : ∀ value, property value → Yields later (next value)) :
    Yields later (step >>= next) where
  bind_congr last other same := by
    rw [bind_assoc, bind_assoc]
    exact first.bind_congr _ _ fun value holds => (second value holds).bind_congr last other same

end Yields

variable [FileStore Step] [LawfulMonad Step]

/-- If a value is given at all, it has a property. -/
abbrev IfOk {Error Value : Type} (property : Value → Prop) (answer : Except Error Value) : Prop :=
  ∀ value, answer = .ok value → property value

theorem IfOk.error {Error Value : Type} {property : Value → Prop} (error : Error) :
    IfOk property (.error error) := by
  intro value impossible
  cases impossible

theorem IfOk.ok {Error Value : Type} {property : Value → Prop} {value : Value}
    (holds : property value) : IfOk property (.ok value : Except Error Value) := by
  intro other same
  cases same
  exact holds

theorem stageFile_yields (base : String) (file : GeneratedFile) :
    Yields (IfOk fun staged => staged.2 = PathText.join base file.path)
      (stageFile base file : Step _) := by
  refine (Yields.any _).bind fun made _ => ?_
  split
  · exact .pure (.error _)
  · refine (Yields.any _).bind fun staged _ => ?_
    split
    · exact .pure (.error _)
    · exact .pure (.ok rfl)

theorem stageAll_yields (base : String) (files : List GeneratedFile)
    (done : List (Staged × String)) :
    Yields (IfOk fun staged => staged.map (·.2) =
        done.map (·.2) ++ files.map fun file => PathText.join base file.path)
      (stageAll base done files : Step _) := by
  induction files generalizing done with
  | nil => exact .pure (.ok (by simp))
  | cons file rest ih =>
      refine (stageFile_yields base file).bind fun answer path => ?_
      split
      · next staged =>
          have later := ih (done ++ [staged])
          rw [List.map_append, List.append_assoc, List.map_singleton, path staged rfl] at later
          exact later
      · exact (Yields.any _).bind fun _ _ => .pure (.error _)

theorem settleAll_yields (staged : List (Staged × String)) :
    Yields (IfOk fun written => written = staged.map (·.2)) (settleAll staged : Step _) := by
  induction staged with
  | nil => exact .pure (.ok rfl)
  | cons first rest ih =>
      refine (Yields.any _).bind fun answer _ => ?_
      split
      · exact (Yields.any _).bind fun _ _ => .pure (.error _)
      · refine ih.bind fun answer written => ?_
        cases answer with
        | error error => exact .pure (.error _)
        | ok paths => exact .pure (.ok (congrArg _ (written paths rfl)))

theorem writeAll_yields (base : String) (files : List GeneratedFile) :
    Yields (IfOk fun written => written = files.map fun file => PathText.join base file.path)
      (writeAll base files : Step _) := by
  refine (stageAll_yields base files []).bind fun answer paths => ?_
  split
  · exact .pure (.error _)
  · next staged =>
      have settled : Yields _ (settleAll staged : Step _) := settleAll_yields staged
      rw [paths staged rfl] at settled
      exact settled

end ClientGen
