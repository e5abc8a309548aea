import FilterClause.Command.Error

/-!
What becomes of a failure on its way out, when it is described anew and more is said of its outermost
layer, in any order and any number of times. Its code, its messages and the layer where it started are
kept, each new layer starts with the operation and the field of the one below it, and what is shown of
the failure is made of these.
-/
namespace FilterClause

namespace Failure

/-- What is done to a failure that is passed on: it is described anew, or more is said of its outermost
layer. -/
inductive Step
  | wrap (message : String)
  | operation (name : String)
  | field (name : String)
  | help (text : String)
deriving DecidableEq, Repr

namespace Step

def message? : Step → Option String
  | .wrap message => some message
  | _ => none

def operation? : Step → Option String
  | .operation name => some name
  | _ => none

def field? : Step → Option String
  | .field name => some name
  | _ => none

def help? : Step → Option String
  | .help text => some text
  | _ => none

def take (f : Failure) : Step → Failure
  | .wrap message => f.wrap message
  | .operation name => f.withOperation name
  | .field name => f.withField name
  | .help text => f.withHelp text

end Step

/-- What becomes of a failure step by step. -/
def after (f : Failure) (steps : List Step) : Failure :=
  steps.foldl Step.take f

/-- The new descriptions, in the order of the steps. -/
def messages (steps : List Step) : List String :=
  steps.filterMap Step.message?

/-- The last that steps say of one kind. -/
def last (said : Step → Option String) (steps : List Step) : Option String :=
  (steps.filterMap said).getLast?

/-- The steps up to the next new description. -/
def own (steps : List Step) : List Step :=
  steps.takeWhile fun step => step.message?.isNone

/-- A layer of which more is said. -/
def told (layer : Layer) (steps : List Step) : Layer :=
  { layer with
    context :=
      { operation := (last Step.operation? steps).or layer.context.operation
        field := (last Step.field? steps).or layer.context.field
        data := layer.context.data
        help := (last Step.help? steps).or layer.context.help } }

theorem after_append (f : Failure) (before later : List Step) :
    f.after (before ++ later) = (f.after before).after later := by
  simp [after]

theorem last_cons (said : Step → Option String) (step : Step) (steps : List Step) :
    last said (step :: steps) = (last said steps).or (said step) := by
  rw [last, List.filterMap_cons, last]
  cases said step with
  | none => simp
  | some text => simp [List.getLast?_cons]

/-! ### What one step and many steps keep -/

theorem code_take (f : Failure) (step : Step) : (step.take f).outer.code = f.outer.code := by
  cases step <;> rfl

theorem code_after (f : Failure) (steps : List Step) :
    (f.after steps).outer.code = f.outer.code := by
  induction steps generalizing f with
  | nil => rfl
  | cons step steps ih => exact (ih (step.take f)).trans (f.code_take step)

theorem cause_after (f : Failure) (steps : List Step) : (f.after steps).cause = f.cause := by
  induction steps generalizing f with
  | nil => rfl
  | cons step steps ih => exact (ih (step.take f)).trans (by cases step <;> rfl)

/-- A step says one thing of the outermost layer, or puts one layer above it. -/
theorem chain_take (f : Failure) (step : Step) :
    (step.take f).chain = step.message?.toList ++ f.chain := by
  cases step <;> rfl

theorem chain_after (f : Failure) (steps : List Step) :
    (f.after steps).chain = (messages steps).reverse ++ f.chain := by
  induction steps generalizing f with
  | nil => rfl
  | cons step steps ih =>
    have hstep : (f.after (step :: steps)).chain = ((step.take f).after steps).chain := rfl
    rw [hstep, ih, chain_take, messages, messages, List.filterMap_cons]
    cases step.message? <;> simp

/-- What a new description takes over, and what else only one kind of step changes, is what that kind
said last, however many layers ago. -/
theorem context_after (part : Context → Option String) {said : Step → Option String}
    (h : ∀ (f : Failure) (step : Step),
      part (step.take f).outer.context = (said step).or (part f.outer.context))
    (f : Failure) (steps : List Step) :
    part (f.after steps).outer.context = (last said steps).or (part f.outer.context) := by
  induction steps generalizing f with
  | nil => rfl
  | cons step steps ih =>
    rw [last_cons, Option.or_assoc, ← h, ← ih]
    rfl

theorem operation_after (f : Failure) (steps : List Step) :
    (f.after steps).outer.context.operation =
      (last Step.operation? steps).or f.outer.context.operation :=
  context_after (·.operation) (fun f step => by cases step <;> rfl) f steps

theorem field_after (f : Failure) (steps : List Step) :
    (f.after steps).outer.context.field = (last Step.field? steps).or f.outer.context.field :=
  context_after (·.field) (fun f step => by cases step <;> rfl) f steps

/-! ### Layers -/

theorem told_cons (layer : Layer) (step : Step) (steps : List Step) :
    told layer (step :: steps) = told (told layer [step]) steps := by
  simp only [told, last_cons, Option.or_assoc]
  rfl

/-- A step that is no new description says something of the outermost layer. -/
theorem outer_take {step : Step} (h : step.message? = none) (f : Failure) :
    (step.take f).outer = told f.outer [step] := by
  cases step with
  | wrap message => exact nomatch h
  | operation name => rfl
  | field name => rfl
  | help text => rfl

theorem inner_take {step : Step} (h : step.message? = none) (f : Failure) :
    (step.take f).inner = f.inner := by
  cases step with
  | wrap message => exact nomatch h
  | operation name => rfl
  | field name => rfl
  | help text => rfl

/-- All layers stay as they are below the new ones, but for the outermost one, of which more is said up
to the next new description. -/
theorem exists_layers_after (f : Failure) (steps : List Step) :
    ∃ upper, upper.length = (messages steps).length ∧
      (f.after steps).layers = upper ++ told f.outer (own steps) :: f.inner := by
  induction steps generalizing f with
  | nil => exact ⟨[], rfl, rfl⟩
  | cons step steps ih =>
    obtain ⟨upper, hlength, hlayers⟩ := ih (step.take f)
    have hafter : (f.after (step :: steps)).layers = ((step.take f).after steps).layers := rfl
    cases hstep : step.message? with
    | none =>
      refine ⟨upper, by simp [messages, hstep] at hlength ⊢; exact hlength, ?_⟩
      have hown : own (step :: steps) = step :: own steps := by simp [own, hstep]
      rw [hafter, hlayers, hown, told_cons, outer_take hstep, inner_take hstep]
    | some message =>
      obtain rfl : step = .wrap message := by
        cases step with
        | wrap other => rw [Option.some.inj hstep]
        | operation name => exact nomatch hstep
        | field name => exact nomatch hstep
        | help text => exact nomatch hstep
      refine ⟨upper ++ [told (f.wrap message).outer (own steps)], ?_, ?_⟩
      · simpa [messages, Step.message?] using hlength
      · rw [hafter, hlayers, List.append_assoc, List.singleton_append]
        rfl

/-- The layer where a failure started is still there. More can be said of it as long as it is the outermost
one. -/
theorem root_after (f : Failure) (steps : List Step) :
    (f.after steps).root = f.inner.getLast?.getD (told f.outer (own steps)) := by
  have hroot : ∀ g : Failure, g.layers.getLast? = some g.root := fun g => List.getLast?_cons
  obtain ⟨upper, _, hlayers⟩ := f.exists_layers_after steps
  have hlast := hroot (f.after steps)
  rw [hlayers, List.getLast?_append, List.getLast?_cons, Option.some_or] at hlast
  exact (Option.some.inj hlast).symm

/-! ### What is shown -/

theorem numbered_eq (first : Nat) (messages : List String) :
    numbered first messages = String.join (messages.mapIdx fun i message =>
      "  " ++ toString (first + i) ++ ". " ++ message ++ "\n") := by
  induction messages generalizing first with
  | nil => rfl
  | cons message messages ih =>
    rw [numbered, ih, List.mapIdx_cons, String.join_cons]
    simp only [Nat.add_zero, Nat.add_assoc, Nat.add_comm 1]

/-- The whole text of a failure. -/
theorem full_eq (f : Failure) :
    f.full =
      "Error [" ++ f.outer.code.label ++ "]: " ++ f.outer.message ++ "\n" ++
        line "  → While: " f.outer.context.operation ++ line "  → Field: " f.outer.context.field ++
        (if f.inner.map Layer.message = [] then ""
          else "\nCaused by:\n" ++ String.join ((f.inner.map Layer.message).mapIdx fun i message =>
            "  " ++ toString (i + 1) ++ ". " ++ message ++ "\n")) ++
        line "\nData: " (f.root.context.data.map fun data =>
          if data.length ≤ 200 then data else String.ofList (data.toList.take 200) ++ "...") ++
        line "\nHelp: " f.root.context.help := by
  have hexcerpt : excerpt = fun data =>
      if data.length ≤ 200 then data else String.ofList (data.toList.take 200) ++ "..." := by
    funext data
    by_cases hlong : 200 < data.length
    · rw [excerpt, if_pos hlong, if_neg (by omega)]
    · rw [excerpt, if_neg hlong, if_pos (by omega)]
  unfold full
  dsimp only
  rw [hexcerpt, numbered_eq]
  simp only [List.isEmpty_iff, List.map_eq_nil_iff, Nat.add_comm 1]

/-- The whole text of a failure as an error of a command. -/
theorem ofCompilation_eq (f : Failure) :
    Command.Error.ofCompilation f =
      "[" ++ f.outer.code.label ++ "] " ++ ": ".intercalate f.chain ++
        (f.outer.context.operation.elim "" fun operation => " (in `" ++ operation ++ "`)") ++
        ((f.root.context.data.filter (· ≠ "")).elim "" fun data => "\n  data: " ++ data) := by
  unfold Command.Error.ofCompilation
  dsimp only
  congr 1
  · cases f.outer.context.operation <;> rfl
  · cases f.root.context.data with
    | none => rfl
    | some data => by_cases hdata : data = "" <;> simp [Option.filter_some, hdata]

/-- What is kept of a failure in what becomes of it. -/
structure Keeps (f : Failure) (steps : List Step) (g : Failure) : Prop where
  code : g.outer.code = f.outer.code
  chain : g.chain = (messages steps).reverse ++ f.chain
  root_message : g.root.message = f.root.message
  root_data : g.root.context.data = f.root.context.data
  /-- Advice can be given at the root only as long as nothing is above it. -/
  root_help : g.root.context.help =
    if f.inner = [] then (last Step.help? (own steps)).or f.root.context.help
    else f.root.context.help
  cause : g.cause = f.cause
  /-- A layer above starts with the operation and the field of the one below it, as it was then, and
  without data and help. It has no data later on, and nothing changes below it. -/
  layers : ∀ before message later, steps = before ++ .wrap message :: later →
    ∃ upper, upper.length = (messages later).length ∧
      g.layers = upper ++
        { code := f.outer.code
          message
          context :=
            { operation :=
                (last Step.operation? (own later)).or (f.after before).outer.context.operation
              field := (last Step.field? (own later)).or (f.after before).outer.context.field
              data := none
              help := last Step.help? (own later) } } :: (f.after before).layers
  operation :
    g.outer.context.operation = (last Step.operation? steps).or f.outer.context.operation
  field : g.outer.context.field = (last Step.field? steps).or f.outer.context.field
  full :
    let below := ((messages steps).reverse ++ f.chain).tail
    g.full =
      "Error [" ++ f.outer.code.label ++ "]: " ++ g.outer.message ++ "\n" ++
        line "  → While: " g.outer.context.operation ++ line "  → Field: " g.outer.context.field ++
        (if below = [] then "" else "\nCaused by:\n" ++ String.join (below.mapIdx fun i message =>
          "  " ++ toString (i + 1) ++ ". " ++ message ++ "\n")) ++
        line "\nData: " (f.root.context.data.map fun data =>
          if data.length ≤ 200 then data else String.ofList (data.toList.take 200) ++ "...") ++
        line "\nHelp: " g.root.context.help
  text : f.outer.code ≠ .invalidConfiguration →
    (Command.Error.refused g).text =
        "[" ++ f.outer.code.label ++ "] " ++ ": ".intercalate ((messages steps).reverse ++ f.chain) ++
          (g.outer.context.operation.elim "" fun operation => " (in `" ++ operation ++ "`)") ++
          ((f.root.context.data.filter (· ≠ "")).elim "" fun data => "\n  data: " ++ data) ∧
      (Command.Error.refused g).help? = g.root.context.help

/-- However a failure is described anew, and whatever is said of its layers on the way, it keeps its code
and its origin, each layer starts from the one below it, and what is shown of it tells all of this. -/
theorem keeps_after (f : Failure) (steps : List Step) : Keeps f steps (f.after steps) := by
  have hmessage : (f.after steps).root.message = f.root.message := by
    rw [root_after, root]
    cases f.inner.getLast? <;> rfl
  have hdata : (f.after steps).root.context.data = f.root.context.data := by
    rw [root_after, root]
    cases f.inner.getLast? <;> rfl
  refine ⟨f.code_after steps, f.chain_after steps, hmessage, hdata, ?_, f.cause_after steps, ?_,
    f.operation_after steps, f.field_after steps, ?_, ?_⟩
  · rw [root_after, root]
    cases hinner : f.inner with
    | nil => rfl
    | cons layer inner => rw [if_neg (List.cons_ne_nil _ _), List.getLast?_cons]; rfl
  · rintro before message later rfl
    obtain ⟨upper, hlength, hlayers⟩ := ((f.after before).wrap message).exists_layers_after later
    refine ⟨upper, hlength, ?_⟩
    rw [after_append, ← code_after f before]
    exact hlayers.trans (by rw [told]; simp only [wrap, Option.or_none]; rfl)
  · intro below
    have hbelow : below = (f.after steps).inner.map Layer.message :=
      congrArg List.tail (f.chain_after steps).symm
    rw [full_eq, hbelow, code_after, hdata]
  · intro hcode
    have hother : (f.after steps).outer.code ≠ .invalidConfiguration := by rwa [code_after]
    have htext : (Command.Error.refused (f.after steps)).text =
        Command.Error.ofCompilation (f.after steps) := if_neg hother
    refine ⟨?_, if_neg hother⟩
    rw [htext, ofCompilation_eq, chain_after, code_after, hdata]

/-- A field that is named after a new description is not the field of the layers below. -/
example :
    ((numericKey "5").after [.field "a", .wrap "w", .wrap "x", .field "b", .wrap "y"]).layers.map
      (·.context.field) = [some "b", some "b", some "a", some "a"] := by decide

end Failure

end FilterClause
