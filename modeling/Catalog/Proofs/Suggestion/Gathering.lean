import Catalog.Suggestion.Gathering
import Mathlib

/-!
Gathering suggestions. Main statement: each generator that is asked has a segment of its own, which
depends on the answer to its own call alone; the segments stand in the order of the request, in
whatever order the answers arrive; and a suggestion has a priority exactly if it stands for an error.
-/

namespace Catalog.Suggestion

variable {programs : Programs} {program : String} {generators : List Generator}

/-! ### What is read from a listing -/

theorem priority_of_ofJson {listing text : String} {shape : Json.RowShape}
    {ofRow : Json.Row → Option Suggestion} {suggestions : List Suggestion}
    (hrow : ∀ row suggestion, ofRow row = some suggestion → suggestion.priority = none)
    (h : ofJson listing shape ofRow text = .ok suggestions) :
    ∀ suggestion ∈ suggestions, suggestion.priority = none := by
  unfold ofJson at h
  split at h
  · cases h
    intro suggestion hmem
    obtain ⟨row, -, hsuggestion⟩ := List.mem_filterMap.1 hmem
    exact hrow row suggestion hsuggestion
  · cases h

theorem priority_ofVersions (name : String) (versions : List String) :
    (ofVersions name versions).priority = none := by
  unfold ofVersions
  split <;> rfl

/-- Nothing that is read from a listing has a priority, whatever its name is. -/
theorem priority_of_read {generator : Generator} {text : String} {suggestions : List Suggestion}
    (h : generator.read text = .ok suggestions) :
    ∀ suggestion ∈ suggestions, suggestion.priority = none := by
  cases generator with
  | tasks =>
    refine priority_of_ofJson ?_ h
    intro row suggestion hrow
    unfold ofTaskRow at hrow
    split at hrow <;> cases hrow
    rfl
  | configPaths =>
    refine priority_of_ofJson ?_ h
    intro row suggestion hrow
    unfold ofConfigRow at hrow
    split at hrow <;> cases hrow
    rfl
  | installed =>
    cases h
    simp only [ofInstalled, List.forall_mem_map]
    exact fun row _ => priority_ofVersions row.1 row.2
  | registry | backends | plugins | settings | shellAliases =>
    cases h
    simp only [ofRegistry, ofAliases, List.forall_mem_map, implies_true]

theorem priority_of_answer {generator : Generator} {suggestions : List Suggestion}
    (h : generator.answer programs program = .ok suggestions) :
    ∀ suggestion ∈ suggestions, suggestion.priority = none := by
  unfold Generator.answer at h
  cases hanswer : programs.answer (generator.call program) with
  | error message => simp [hanswer, bind, Except.bind] at h
  | ok text =>
    simp only [hanswer, bind, Except.bind] at h
    cases hread : generator.read text with
    | error fault => simp [hread, Except.mapError] at h
    | ok found =>
      rw [hread] at h
      cases h
      exact priority_of_read hread

/-! ### Segments -/

/-- What a generator contributes: its suggestions, or the one that stands for its error. -/
def segment (programs : Programs) (program : String) (generator : Generator) : List Suggestion :=
  match generator.answer programs program with
  | .ok suggestions => suggestions
  | .error message => [ofError message]

theorem ask_suggestions (generator : Generator) :
    (ask programs program generator).suggestions = segment programs program generator := by
  unfold ask segment
  cases generator.answer programs program <;> rfl

theorem ask_calls (generator : Generator) :
    (ask programs program generator).calls = [generator.call program] := by
  unfold ask
  cases generator.answer programs program <;> rfl

theorem foldr_append : ∀ results : List Gathered,
    (results.foldr Gathered.append {}).suggestions = results.flatMap (·.suggestions)
      ∧ (results.foldr Gathered.append {}).calls = results.flatMap (·.calls)
  | [] => ⟨rfl, rfl⟩
  | first :: rest => by
    obtain ⟨hsuggestions, hcalls⟩ := foldr_append rest
    simp [Gathered.append, hsuggestions, hcalls]

theorem gather_of_found (h : programs.finds program = true) (generators : List Generator) :
    (gather programs program generators).suggestions
        = generators.flatMap (segment programs program)
      ∧ (gather programs program generators).calls = generators.map (·.call program) := by
  rw [gather, if_pos h]
  obtain ⟨hsuggestions, hcalls⟩ := foldr_append (generators.map (ask programs program))
  rw [hsuggestions, hcalls, List.flatMap_map, List.flatMap_map]
  simp [ask_suggestions, ask_calls, List.map_eq_flatMap]

theorem gather_of_missing (h : programs.finds program = false) (generators : List Generator) :
    (gather programs program generators).suggestions
        = generators.map (fun _ => ofError (notFound program))
      ∧ (gather programs program generators).calls = [] := by
  rw [gather, if_neg (by simp [h])]
  exact ⟨rfl, rfl⟩

theorem arguments_injective : Function.Injective Generator.arguments := by
  intro a b h
  cases a <;> cases b <;> first | rfl | simp [Generator.arguments] at h

/-- A segment depends on the answer to its own call alone. -/
theorem segment_congr {others : Programs} {generator : Generator}
    (h : others.answer (generator.call program) = programs.answer (generator.call program)) :
    segment others program generator = segment programs program generator := by
  rw [segment, segment, Generator.answer, Generator.answer, h]

/-- A suggestion of a segment has a priority exactly if the generator failed. -/
theorem isError_of_mem_segment {generator : Generator} {suggestion : Suggestion}
    (hmem : suggestion ∈ segment programs program generator) :
    suggestion.isError = true ↔ ∃ message,
      generator.answer programs program = .error message ∧ suggestion = ofError message := by
  unfold segment at hmem
  cases hanswer : generator.answer programs program with
  | ok suggestions =>
    rw [hanswer] at hmem
    simp [isError, priority_of_answer hanswer suggestion hmem]
  | error message =>
    rw [hanswer, List.mem_singleton] at hmem
    simp [hmem, isError, ofError]

/-! ### Generators that run at the same time -/

/-- How far the run of a generator is. -/
inductive Progress
  | waiting
  | called
  | done (suggestions : List Suggestion)

/-- Generators that run at the same time, each with a place of its own in the order of the request,
and the calls that were made so far. -/
structure Runs where
  places : List (Generator × Progress)
  calls : List Call

namespace Runs

/-- No generator has started. -/
def start (generators : List Generator) : Runs :=
  ⟨generators.map (·, .waiting), []⟩

/-- What the generators that are done contribute, in the order of the request. -/
def suggestions (runs : Runs) : List Suggestion :=
  runs.places.flatMap fun
    | (_, .done suggestions) => suggestions
    | _ => []

/-- One of the generators goes on: it makes its call, or its answer arrives. -/
inductive Step (programs : Programs) (program : String) : Runs → Runs → Prop
  | call (before after : List (Generator × Progress)) (generator : Generator) (calls : List Call) :
    Step programs program ⟨before ++ (generator, .waiting) :: after, calls⟩
      ⟨before ++ (generator, .called) :: after, calls ++ [generator.call program]⟩
  | answer (before after : List (Generator × Progress)) (generator : Generator)
      (calls : List Call) :
    Step programs program ⟨before ++ (generator, .called) :: after, calls⟩
      ⟨before ++ (generator, .done (segment programs program generator)) :: after, calls⟩

/-- Any number of steps. -/
abbrev Reaches (programs : Programs) (program : String) : Runs → Runs → Prop :=
  Relation.ReflTransGen (Step programs program)

/-- The call of a generator that has made it. -/
def callAt? (program : String) : Generator × Progress → Option Call
  | (_, .waiting) => none
  | (generator, _) => some (generator.call program)

/-- What holds at any time: the places are those of the request, a generator that is done contributed
its segment, and each generator that has started made its one call. -/
structure Inv (programs : Programs) (program : String) (generators : List Generator)
    (runs : Runs) : Prop where
  places : runs.places.map (·.1) = generators
  done : ∀ generator suggestions, (generator, .done suggestions) ∈ runs.places →
    suggestions = segment programs program generator
  calls : runs.calls.Perm (runs.places.filterMap (callAt? program))

theorem inv_start : Inv programs program generators (start generators) := by
  refine ⟨?_, ?_, ?_⟩
  · simp [start, Function.comp_def]
  · simp [start]
  · simp [start, callAt?]

/-- A step keeps the places, and adds a call where one is made. -/
theorem inv_step {runs next : Runs} (h : Inv programs program generators runs)
    (hstep : Step programs program runs next) : Inv programs program generators next := by
  obtain ⟨hplaces, hdone, hcalls⟩ := h
  cases hstep with
  | call before after generator calls =>
    refine ⟨by simpa using hplaces, ?_, ?_⟩
    · intro g suggestions hmem
      exact hdone g suggestions (by simpa using hmem)
    · simp only [List.filterMap_append, List.filterMap_cons, callAt?] at hcalls ⊢
      refine (hcalls.append_right _).trans ?_
      rw [List.append_assoc]
      exact List.perm_append_singleton _ _ |>.append_left _
  | answer before after generator calls =>
    refine ⟨by simpa using hplaces, ?_, by simpa [callAt?] using hcalls⟩
    intro g suggestions hmem
    simp only [List.mem_append, List.mem_cons, Prod.mk.injEq, Progress.done.injEq] at hmem
    rcases hmem with hmem | ⟨rfl, rfl⟩ | hmem
    · exact hdone g suggestions (by simp [hmem])
    · rfl
    · exact hdone g suggestions (by simp [hmem])

theorem inv_reaches {runs next : Runs} (h : Inv programs program generators runs)
    (hreaches : Reaches programs program runs next) : Inv programs program generators next := by
  induction hreaches with
  | refl => exact h
  | tail _ hstep ih => exact inv_step ih hstep

/-- How many steps are left to the run of a generator. -/
def Progress.left : Progress → Nat
  | .waiting => 2
  | .called => 1
  | .done _ => 0

/-- How many steps are left in all. -/
def left (runs : Runs) : Nat :=
  (runs.places.map fun place => Progress.left place.2).sum

theorem left_step {runs next : Runs} (h : Step programs program runs next) :
    next.left < runs.left := by
  cases h <;> simp [left, Progress.left]

/-- The runs come to an end. -/
theorem wellFounded_step (programs : Programs) (program : String) :
    WellFounded fun next runs => Step programs program runs next :=
  Subrelation.wf left_step (measure left).wf

/-- Where no step is left, every generator is done. -/
theorem exists_done_of_stuck {runs : Runs} (h : ∀ next, ¬ Step programs program runs next) :
    ∀ place ∈ runs.places, ∃ suggestions, place.2 = .done suggestions := by
  rintro ⟨generator, progress⟩ hmem
  obtain ⟨before, after, hplaces⟩ := List.append_of_mem hmem
  obtain ⟨places, calls⟩ := runs
  subst hplaces
  cases progress with
  | waiting => exact absurd (.call before after generator calls) (h _)
  | called => exact absurd (.answer before after generator calls) (h _)
  | done suggestions => exact ⟨suggestions, rfl⟩

/-- At the end there is one segment for each generator, in the order of the request, and each of them
made its call. -/
theorem end_of_inv {runs : Runs} (h : Inv programs program generators runs)
    (hdone : ∀ place ∈ runs.places, ∃ suggestions, place.2 = .done suggestions) :
    runs.suggestions = generators.flatMap (segment programs program)
      ∧ runs.calls.Perm (generators.map (·.call program)) := by
  rw [← h.places, List.flatMap_map, List.map_map]
  constructor
  · refine List.flatMap_congr fun place hmem => ?_
    obtain ⟨suggestions, hplace⟩ := hdone place hmem
    obtain ⟨generator, progress⟩ := place
    obtain rfl : progress = .done suggestions := hplace
    exact h.done generator suggestions hmem
  · have hcalls : runs.places.filterMap (callAt? program)
        = runs.places.map ((·.call program) ∘ (·.1)) := by
      rw [← List.filterMap_eq_map]
      refine List.filterMap_congr fun place hmem => ?_
      obtain ⟨suggestions, hplace⟩ := hdone place hmem
      obtain ⟨generator, progress⟩ := place
      obtain rfl : progress = .done suggestions := hplace
      rfl
    exact hcalls ▸ h.calls

end Runs

/-! ### The whole request -/

/-- The suggestions that are gathered are the segments of the generators, in the order of the request,
and so they are whenever the generators run at the same time: such runs come to an end, and whatever
order the answers arrive in, the end is the same. A segment depends on the answer to its own call
alone. If the program is not found, every generator stands for that error and nothing is called. A
suggestion has a priority exactly if it stands for an error. -/
theorem gather_by_segment (programs : Programs) (program : String) (generators : List Generator) :
    (programs.finds program = true →
        (gather programs program generators).suggestions
            = generators.flatMap (segment programs program)
          ∧ (gather programs program generators).calls = generators.map (·.call program)
          ∧ WellFounded (fun next runs => Runs.Step programs program runs next)
          ∧ ∀ runs, Runs.Reaches programs program (Runs.start generators) runs →
              (∀ next, ¬ Runs.Step programs program runs next) →
                runs.suggestions = (gather programs program generators).suggestions
                  ∧ runs.calls.Perm (gather programs program generators).calls)
      ∧ (programs.finds program = false →
          (gather programs program generators).suggestions
              = generators.map (fun _ => ofError (notFound program))
            ∧ (gather programs program generators).calls = [])
      ∧ (∀ (generator : Generator) (others : Programs),
          (∀ call : Call, call.arguments ≠ generator.arguments →
            others.answer call = programs.answer call) →
              ∀ other ≠ generator,
                segment others program other = segment programs program other)
      ∧ ∀ suggestion ∈ (gather programs program generators).suggestions,
          suggestion.priority.isSome ↔ ∃ generator ∈ generators, ∃ message,
            suggestion = ofError message
              ∧ if programs.finds program then generator.answer programs program = .error message
                else message = notFound program := by
  refine ⟨fun hfound => ?_, fun hmissing => gather_of_missing hmissing generators, ?_, ?_⟩
  · obtain ⟨hsuggestions, hcalls⟩ := gather_of_found hfound generators
    refine ⟨hsuggestions, hcalls, Runs.wellFounded_step programs program, ?_⟩
    intro runs hreaches hstuck
    rw [hsuggestions, hcalls]
    exact Runs.end_of_inv (Runs.inv_reaches Runs.inv_start hreaches)
      (Runs.exists_done_of_stuck hstuck)
  · intro generator others hothers other hne
    refine segment_congr (hothers _ fun hsame => hne (arguments_injective hsame))
  · intro suggestion hmem
    cases hfound : programs.finds program with
    | true =>
      rw [(gather_of_found hfound generators).1] at hmem
      obtain ⟨generator, hgenerator, hsegment⟩ := List.mem_flatMap.1 hmem
      constructor
      · intro hpriority
        obtain ⟨message, hanswer, rfl⟩ := (isError_of_mem_segment hsegment).1 hpriority
        exact ⟨generator, hgenerator, message, rfl, hanswer⟩
      · rintro ⟨-, -, message, rfl, -⟩
        rfl
    | false =>
      rw [(gather_of_missing hfound generators).1] at hmem
      obtain ⟨generator, hgenerator, rfl⟩ := List.mem_map.1 hmem
      exact ⟨fun _ => ⟨generator, hgenerator, _, rfl, rfl⟩, fun _ => rfl⟩

/-- A tool manager that knows a plugin with the name `error` and fails at everything else. -/
def errorPlugin : Programs where
  finds := fun _ => true
  answer := fun call => if call.arguments = ["plugins", "--all"] then .ok "error\n" else .error "no"

theorem gather_errorPlugin :
    errorPlugin.finds "mise" = true
      ∧ (gather errorPlugin "mise" [.plugins, .tasks, .plugins]).suggestions
        = [{ name := "error" }, ofError "no", { name := "error" }]
      ∧ ∀ runs, Runs.Reaches errorPlugin "mise" (Runs.start [.plugins, .tasks, .plugins]) runs →
          (∀ next, ¬ Runs.Step errorPlugin "mise" runs next) →
            runs.suggestions = [{ name := "error" }, ofError "no", { name := "error" }] := by
  obtain ⟨hfound, -⟩ := gather_by_segment errorPlugin "mise" [.plugins, .tasks, .plugins]
  obtain ⟨hsuggestions, -, -, hruns⟩ := hfound rfl
  have hsegments : [Generator.plugins, .tasks, .plugins].flatMap (segment errorPlugin "mise")
      = [{ name := "error" }, ofError "no", { name := "error" }] := by
    cbv
  rw [hsegments] at hsuggestions
  exact ⟨rfl, hsuggestions, fun runs hreaches hstuck =>
    (hruns runs hreaches hstuck).1.trans hsuggestions⟩

end Catalog.Suggestion
