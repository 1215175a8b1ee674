import Waymark.Encoding

/-!
# Binding arguments

Arguments are bound position by position. Binding succeeds just when every argument fits
its parameter, fails at the first one that does not, and leaves under each tag the value
of the last argument whose parameter has that tag.
-/

namespace Waymark

/-- The last argument of a call whose parameter has a tag. -/
def lastArgument? (tag : String) (arguments : List Argument) (parameters : List Parameter) :
    Option Argument :=
  ((arguments.zip parameters).findRev? fun pair => pair.2.tag = tag).map Prod.fst

theorem lastArgument?_cons (tag : String) (argument : Argument) (arguments : List Argument)
    (parameter : Parameter) (parameters : List Parameter) :
    lastArgument? tag (argument :: arguments) (parameter :: parameters) =
      (lastArgument? tag arguments parameters).or
        (if parameter.tag = tag then some argument else none) := by
  simp only [lastArgument?, List.zip_cons_cons, List.findRev?_eq_find?_reverse,
    List.reverse_cons, List.find?_append, List.find?_singleton]
  cases (arguments.zip parameters).reverse.find? fun pair => pair.2.tag = tag <;>
    by_cases same : parameter.tag = tag <;> simp [same]

theorem mem_zip_of_lastArgument? {tag : String} {arguments : List Argument}
    {parameters : List Parameter} {argument : Argument}
    (last : lastArgument? tag arguments parameters = some argument) :
    ∃ parameter, (argument, parameter) ∈ arguments.zip parameters := by
  rw [lastArgument?, List.findRev?_eq_find?_reverse] at last
  obtain ⟨⟨found, parameter⟩, isLast, rfl⟩ := Option.map_eq_some_iff.1 last
  exact ⟨parameter, List.mem_reverse.1 (List.mem_of_find?_eq_some isLast)⟩

namespace Argument

/-- The value of an argument that is known before the path is followed. -/
def known? (argument : Argument) : Option Value := argument.value?.toOption

/-- Whether an argument has a value that a parameter of some kind takes: one of the kind,
or the null value. -/
def Fits (argument : Argument) (kind : Kind) : Prop :=
  ∃ value, argument.value? = .ok value ∧ (value.kind? = none ∨ value.kind? = some kind)

variable {member : Member} {position start : Nat} {argument : Argument} {parameter : Parameter}

theorem bind_eq_ok_iff {value : Value} :
    argument.bind member position parameter = .ok value ↔
      argument.value? = .ok value ∧
        (value.kind? = none ∨ value.kind? = some parameter.kind) := by
  rw [bind]
  cases argument.value? with
  | error reason => simp
  | ok found =>
    rw [Except.ok.injEq]
    cases kind : found.kind? with
    | none =>
      constructor
      · intro bound
        simp only [kind, Except.ok.injEq] at bound
        exact ⟨bound, .inl (bound ▸ kind)⟩
      · intro valued
        obtain ⟨rfl, -⟩ := valued
        simp [kind]
    | some foundKind =>
      constructor
      · intro bound
        simp only [kind] at bound
        split at bound
        · next same =>
          cases bound
          exact ⟨rfl, .inr (same ▸ kind)⟩
        · cases bound
      · intro valued
        obtain ⟨rfl, free | same⟩ := valued
        · rw [kind] at free
          cases free
        · rw [kind, Option.some.injEq] at same
          simp [kind, same]

theorem exists_bind_of_fits (fits : argument.Fits parameter.kind) (member : Member)
    (position : Nat) : ∃ value, argument.bind member position parameter = .ok value := by
  obtain ⟨value, valued, kind⟩ := fits
  exact ⟨value, bind_eq_ok_iff.2 ⟨valued, kind⟩⟩

theorem fits_of_bind {value : Value} (bound : argument.bind member position parameter = .ok value) :
    argument.Fits parameter.kind :=
  ⟨value, bind_eq_ok_iff.1 bound⟩

theorem bindAll_cons_eq_ok_iff {arguments : List Argument} {parameters : List Parameter}
    {bound result : Arguments} :
    bindAll member start (argument :: arguments) (parameter :: parameters) bound = .ok result ↔
      ∃ value, argument.bind member start parameter = .ok value ∧
        bindAll member (start + 1) arguments parameters (bound.insert parameter.tag value) =
          .ok result := by
  rw [bindAll]
  cases argument.bind member start parameter <;> simp

/-- Binding succeeds just when every argument fits its parameter. -/
theorem exists_bindAll_eq_ok_iff {arguments : List Argument} {parameters : List Parameter}
    {bound : Arguments} :
    (∃ result, bindAll member start arguments parameters bound = .ok result) ↔
      ∀ pair ∈ arguments.zip parameters, pair.1.Fits pair.2.kind := by
  induction arguments generalizing parameters start bound with
  | nil => simp [bindAll]
  | cons argument arguments inductionHypothesis =>
    cases parameters with
    | nil => simp [bindAll]
    | cons parameter parameters =>
      rw [List.zip_cons_cons, List.forall_mem_cons]
      constructor
      · intro bound
        obtain ⟨result, succeeded⟩ := bound
        obtain ⟨value, first, later⟩ := bindAll_cons_eq_ok_iff.1 succeeded
        exact ⟨fits_of_bind first, inductionHypothesis.1 ⟨result, later⟩⟩
      · intro all
        obtain ⟨fits, others⟩ := all
        obtain ⟨value, first⟩ := exists_bind_of_fits fits member start
        obtain ⟨result, later⟩ := inductionHypothesis.2 others
        exact ⟨result, bindAll_cons_eq_ok_iff.2 ⟨value, first, later⟩⟩

/-- Binding fails at the first argument that does not fit, with the error of binding it. -/
theorem bindAll_eq_error_iff {arguments : List Argument} {parameters : List Parameter}
    {bound : Arguments} {error : LabelError} :
    bindAll member start arguments parameters bound = .error error ↔
      ∃ position argument parameter,
        (arguments.zip parameters)[position]? = some (argument, parameter) ∧
        argument.bind member (start + position) parameter = .error error ∧
        ∀ pair ∈ (arguments.zip parameters).take position, pair.1.Fits pair.2.kind := by
  induction arguments generalizing parameters start bound with
  | nil => simp [bindAll]
  | cons argument arguments inductionHypothesis =>
    cases parameters with
    | nil => simp [bindAll]
    | cons parameter parameters =>
      rw [bindAll, List.zip_cons_cons]
      constructor
      · intro failed
        split at failed
        · next refused =>
          cases failed
          exact ⟨0, argument, parameter, rfl, refused, by simp⟩
        · next value first =>
          obtain ⟨position, other, otherParameter, found, refused, earlier⟩ :=
            inductionHypothesis.1 failed
          refine ⟨position + 1, other, otherParameter, found, ?_, ?_⟩
          · rw [← refused]
            congr 1
            omega
          · rw [List.take_succ_cons, List.forall_mem_cons]
            exact ⟨fits_of_bind first, earlier⟩
      · intro failing
        obtain ⟨position, other, otherParameter, found, refused, earlier⟩ := failing
        cases position with
        | zero =>
          cases found
          rw [Nat.add_zero] at refused
          rw [refused]
        | succ position =>
          rw [List.take_succ_cons, List.forall_mem_cons] at earlier
          obtain ⟨value, first⟩ := exists_bind_of_fits earlier.1 member start
          rw [first]
          refine inductionHypothesis.2 ⟨position, other, otherParameter, found, ?_, earlier.2⟩
          rw [← refused]
          congr 1
          omega

/-- What binding leaves under a tag is the value of the last argument for it. -/
theorem get?_bindAll {arguments : List Argument} {parameters : List Parameter}
    {bound result : Arguments}
    (succeeded : bindAll member start arguments parameters bound = .ok result) (tag : String) :
    result.get? tag =
      ((lastArgument? tag arguments parameters).bind known?).or (bound.get? tag) := by
  induction arguments generalizing parameters start bound with
  | nil =>
    cases succeeded
    simp [lastArgument?]
  | cons argument arguments inductionHypothesis =>
    cases parameters with
    | nil =>
      cases succeeded
      simp [lastArgument?]
    | cons parameter parameters =>
      obtain ⟨value, first, later⟩ := bindAll_cons_eq_ok_iff.1 succeeded
      rw [inductionHypothesis later, lastArgument?_cons, Dict.get?_insert]
      -- Where a later argument has the tag, what is bound first does not matter: the later
      -- one is bound too, so it has a value.
      cases last : lastArgument? tag arguments parameters with
      | none =>
        have valued : argument.known? = some value := by
          rw [known?, (bind_eq_ok_iff.1 first).1]
          rfl
        by_cases same : parameter.tag = tag <;> simp [same, valued]
      | some other =>
        obtain ⟨otherParameter, paired⟩ := mem_zip_of_lastArgument? last
        obtain ⟨otherValue, otherKnown, -⟩ :=
          exists_bindAll_eq_ok_iff.1 ⟨result, later⟩ _ paired
        have valued : other.known? = some otherValue := by
          rw [known?, otherKnown]
          rfl
        simp [valued]

end Argument

namespace Encoding

variable {ι : Type}

/-- A read takes a text and no arguments, a call takes a call and binds as many arguments
as it declares. -/
theorem parameters?_eq_ok_iff {identifier : String} {path : Path} {leaf : Accessor ι}
    {parameters : Arguments} :
    parameters? identifier path leaf = .ok parameters ↔
      (∃ trail read, path = .read trail ∧ leaf.kind = .text read ∧ parameters = .empty) ∨
        ∃ target member arguments declared invoke,
          path = .call target member arguments ∧ leaf.kind = .call declared invoke ∧
            declared.length = arguments.length ∧
            Argument.bindAll member 0 arguments declared .empty = .ok parameters := by
  unfold parameters?
  cases path with
  | read trail =>
    cases leaf.kind <;> simp [eq_comm]
  | call target member arguments =>
    cases kind : leaf.kind with
    | nested section_ navigate => simp
    | text read => simp
    | call declared invoke =>
      constructor
      · intro bound
        dsimp only at bound
        split at bound
        · next sameLength =>
          exact .inr ⟨target, member, arguments, declared, invoke, rfl, rfl, sameLength, bound⟩
        · cases bound
      · intro ends
        rcases ends with
          ⟨trail, read, impossible, -⟩ | ⟨_, _, _, _, _, path, same, sameLength, bound⟩
        · cases impossible
        · cases path
          cases same
          dsimp only
          rw [if_pos sameLength, bound]

end Encoding

end Waymark
