import PoolConsole.Proofs.SingleSubmission
import PoolConsole.Proofs.TemplateChoice

namespace PoolConsole

open PoolConsole.Action Console

/-- The definition that the choice made by the activity of a number has been given. -/
def definition? (h : List Moment) (n : Nat) : Option TemplateDefinition :=
  (answer? h n).bind Except.toOption

variable {start : Console} {h : List Moment} {m : Moment} {v w : World} {n : Nat}

/-- The parameters that are shown are those of the definition, if it has arrived. -/
theorem names_shown {name : String} (choice : choice? h = some (n, name)) :
    (shown h).params.map (·.name) = (definition? h n).elim [] TemplateDefinition.names := by
  rw [shown_of_choice choice, definition?]
  cases answer? h n with
  | none => rfl
  | some r => cases r <;> rfl

theorem exists_choice_of_template {name : String} (template : (shown h).template = some name) :
    ∃ n, choice? h = some (n, name) := by
  cases choice : choice? h with
  | none =>
    rw [shown, choice] at template
    cases template
  | some c =>
    obtain ⟨n, other⟩ := c
    rw [shown_of_choice choice, Picked.template_of, Option.some.injEq] at template
    exact ⟨n, congrArg (fun name => some (n, name)) template⟩

/-- A request is made of what the wizard shows. -/
theorem request_eq {w : Wizard} {scope : Scope} {request : DeployRequest}
    (h : w.request scope = .ok request) :
    w.view.template = some request.template ∧ request.values = w.view.form.toValues := by
  obtain ⟨-, template, chosen, rfl⟩ := Wizard.request_eq_ok_iff.mp h
  exact ⟨chosen, rfl⟩

/-- A deployment is asked for only where a submission begins. -/
theorem Run.submits (run : Run start h v) (fresh : start.wizard = {}) (step : Step v m w)
    {i : Issue Console} (mem : i ∈ m.issues) (deploys : i.call.deploys = true) :
    m.begins = true ∧ m.activity.submits = true := by
  have asked : m.deployments ≠ 0 := fun none =>
    (List.countP_eq_zero.mp none) i mem deploys
  -- A deployment is asked for only in the moment in which the flag is taken.
  obtain ⟨holder, ledger⟩ := run.ledger fresh
  obtain ⟨_, turn, _⟩ := ledger.single.step step
  cases turn with
  | stays _ _ none => exact absurd none asked
  | returned _ none => exact absurd none asked
  | taken _ _ begins =>
    refine ⟨begins, ?_⟩
    cases submits : m.activity.submits with
    | true => rfl
    | false =>
      have quiet := ((confined_submitting _ submits).poised rfl (step.advances begins)).issue i mem
      rw [quiet] at deploys
      cases deploys

/-- A deployment is asked for where the job that the wizard has been filled in for is submitted. -/
theorem Run.requests (run : Run start h v) (fresh : start.wizard = {}) (step : Step v m w)
    {request : DeployRequest} {s : Console} (mem : ⟨.deploy request, s⟩ ∈ m.issues) :
    m.begins = true ∧ m.activity = .wizard (.submit .filledIn) ∧
      v.console.wizard.request v.console.scope = .ok request := by
  obtain ⟨begins, submits⟩ := run.submits fresh step mem rfl
  have advances := step.advances begins
  rw [step.before_eq] at advances
  obtain ⟨what, is⟩ := Activity.exists_of_submits submits
  obtain ⟨n, a, reply, before, after, issues, rest⟩ := m
  cases is
  dsimp only at advances mem
  cases advances_submission advances with
  | refused => cases mem
  | filledIn request' success free made =>
    cases List.mem_singleton.mp mem
    exact ⟨begins, rfl, made⟩
  | custom => cases List.mem_singleton.mp mem

/-- A job is deployed only with the values of a definition that was fetched for its template. -/
def DeploysDefined (h : List Moment) : Prop :=
  ∀ later m earlier, h = later ++ m :: earlier → ∀ i ∈ m.issues, ∀ request,
    i.call = .deploy request → ∃ d, (∃ m' ∈ earlier,
      m'.reply = some ⟨.template request.template, .ok d⟩) ∧ request.values.keys = d.names

structure DeploymentValues (h : List Moment) : Prop where
  submitted : ∀ later m earlier, h = later ++ m :: earlier → ∀ i ∈ m.issues, ∀ request,
    i.call = .deploy request → m.begins = true ∧ m.activity = .wizard (.submit .filledIn)
  /-- The request names the template that counts. It has a value for each parameter of the
  definition, in order, and none at all if the definition has not arrived or cannot be had. -/
  values : ∀ later m earlier, h = later ++ m :: earlier → ∀ i ∈ m.issues, ∀ request,
    i.call = .deploy request → ∃ n, choice? earlier = some (n, request.template) ∧
      request.values.keys = (definition? earlier n).elim [] TemplateDefinition.names

/-- A job is deployed from the template that counts, with the values of its definition as far as
that has arrived. A submission does not wait for it. -/
theorem deployment_values (run : Run start h w) (fresh : start.wizard = {}) :
    DeploymentValues h := by
  constructor
  case submitted =>
    rintro later m earlier rfl ⟨c, s⟩ mem request rfl
    obtain ⟨v, v', prior, step⟩ := run.split
    obtain ⟨begins, activity, -⟩ := prior.requests fresh step mem
    exact ⟨begins, activity⟩
  case values =>
    rintro later m earlier rfl ⟨c, s⟩ mem request rfl
    obtain ⟨v, v', prior, step⟩ := run.split
    obtain ⟨-, -, made⟩ := prior.requests fresh step mem
    obtain ⟨template, values⟩ := request_eq made
    have picked := (prior.tracked fresh).picked
    have template' : (shown earlier).template = some request.template := by
      rw [← picked]
      exact template
    have params : v.console.wizard.view.form.params = (shown earlier).params :=
      congrArg Picked.params picked
    obtain ⟨n, choice⟩ := exists_choice_of_template template'
    have names := names_shown choice
    refine ⟨n, choice, ?_⟩
    rw [values, ParameterForm.keys_toValues, params, names]
    rw [params, names]
    cases definition? earlier n with
    | none => exact .nil
    | some d => exact d.nodup_names

/-- A job is submitted once the definition of its template has arrived. -/
theorem values_of_definition :
    ∃ m earlier w request s, Run {} (m :: earlier) w ∧ ⟨.deploy request, s⟩ ∈ m.issues ∧
      request.template = "a" ∧ request.values.keys = ["size"] := by
  have named := Run.next (@Run.start {})
    (.begin (.wizard (.setName "j")) (.get (.get (.set (.done _ _)))))
  have chosen := named.next (.begin (.wizard (.select "a")) (.get (.get (.set (.call _ _ _)))))
  have told := chosen.next (.answer 1 _ ⟨.template "a", .ok {
      values := ⟨[("size", .null)], by simp⟩
      schema := { properties := ⟨[("size", .object [])], by simp⟩ } }⟩ rfl
    (.call _ (.get (.get (.set (.done _ _))))))
  have submitted := told.next
    (.begin (.wizard (.submit .filledIn)) (.get (.get (.get (.set (.call (.deploy _) _ _))))))
  obtain ⟨n, choice, keys⟩ := (deployment_values submitted rfl).values [] _ _ rfl _ (.head _) _ rfl
  cases choice
  exact ⟨_, _, _, _, _, submitted, .head _, rfl, keys⟩

/-- A job is submitted while the definition of its template is awaited. -/
theorem not_deploysDefined : ¬ ∀ h w, Run {} h w → DeploysDefined h := by
  intro defined
  have chosen := Run.next (@Run.start {})
    (.begin (.wizard (.select "a")) (.get (.get (.set (.call _ _ _)))))
  have named := chosen.next (.begin (.wizard (.setName "j")) (.get (.get (.set (.done _ _)))))
  have submitted := named.next
    (.begin (.wizard (.submit .filledIn)) (.get (.get (.get (.set (.call (.deploy _) _ _))))))
  obtain ⟨d, ⟨m, mem, told⟩, -⟩ := defined _ _ submitted [] _ _ rfl _ (.head _) _ rfl
  rcases mem with _ | ⟨_, _ | ⟨_, ⟨⟩⟩⟩
  · cases told
  · cases told

end PoolConsole
