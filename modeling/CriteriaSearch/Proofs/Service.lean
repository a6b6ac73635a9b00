import CriteriaSearch.Proofs.Registry
import CriteriaSearch.Service
import Mathlib.Data.List.Induction

namespace CriteriaSearch

/-- A call of a service. `name` is the name of the type for an error. -/
inductive ServiceCall (m : Type → Type) (Entity : Type) where
  | register (entity : EntityId) (schema : EntitySchema) (finder : Finder m Entity)
  | search (entity : EntityId) (name : String) (criteria : Criteria)
  | isRegistered (entity : EntityId)
  | availableFilters (entity : EntityId)
  | resolveFieldType (entity : EntityId) (key : String)
  | fieldType (entity : EntityId) (name key : String)

inductive ServiceAnswer (Entity : Type) where
  | registered (outcome : Except SearchError Unit)
  | found (outcome : Except SearchError (ResultPage Entity))
  | isRegistered (answer : Bool)
  | filters (descriptors : List FilterDescriptor)
  | resolvedType (type : FieldType)
  | fieldType (outcome : Except SearchError FieldType)

namespace SearchService

variable {m : Type → Type} {Entity : Type}

def answer [Monad m] (s : SearchService m Entity) :
    ServiceCall m Entity → m (ServiceAnswer Entity)
  | .register entity schema finder =>
    pure (.registered ((s.register entity schema finder).map fun _ => ()))
  | .search entity name criteria => .found <$> s.search entity name criteria
  | .isRegistered entity => pure (.isRegistered (s.isRegistered entity))
  | .availableFilters entity => pure (.filters (s.availableFilters entity))
  | .resolveFieldType entity key => pure (.resolvedType (s.resolveFieldType entity key))
  | .fieldType entity name key => pure (.fieldType (s.fieldType entity name key))

/-- The service after a call. A registration that fails leaves it as it is. -/
def next (s : SearchService m Entity) : ServiceCall m Entity → SearchService m Entity
  | .register entity schema finder =>
    match s.register entity schema finder with
    | .ok after => after
    | .error _ => s
  | _ => s

def run [Monad m] (s : SearchService m Entity) :
    List (ServiceCall m Entity) → m (List (ServiceAnswer Entity))
  | [] => pure []
  | call :: calls => do
    let first ← s.answer call
    let others ← (s.next call).run calls
    return first :: others

def after (past : List (ServiceCall m Entity)) : SearchService m Entity := past.foldl next empty

end SearchService

namespace ServiceCall

variable {m : Type → Type} {Entity : Type}

def registration? : ServiceCall m Entity → Option (Registration (Finder m Entity))
  | .register entity schema finder =>
    schema.descriptors.toOption.map fun filters => ⟨entity, schema.name, filters, finder⟩
  | _ => none

def registrations (past : List (ServiceCall m Entity)) : List (Registration (Finder m Entity)) :=
  past.filterMap registration?

def lastRecord (past : List (ServiceCall m Entity)) (entity : EntityId) :
    Option (Registration (Finder m Entity)) :=
  Registry.lastOf (registrations past) entity

def answerAfter [Monad m] (past : List (ServiceCall m Entity)) :
    ServiceCall m Entity → m (ServiceAnswer Entity)
  | .register _ schema _ => pure (.registered (schema.descriptors.map fun _ => ()))
  | .search entity name criteria =>
    .found <$> match lastRecord past entity with
      | none => pure (.error (.notRegistered name))
      | some r => r.repository (r.resolveCriteria criteria)
  | .isRegistered entity => pure (.isRegistered (lastRecord past entity).isSome)
  | .availableFilters entity =>
    pure <| .filters <| match lastRecord past entity with
      | none => []
      | some r => r.filters
  | .resolveFieldType entity key =>
    pure <| .resolvedType <| match lastRecord past entity with
      | none => .string
      | some r => (r.fieldType? key).getD .string
  | .fieldType entity name key =>
    pure <| .fieldType <| match lastRecord past entity with
      | none => .error (.notRegistered name)
      | some r =>
        match r.fieldType? key with
        | none => .error (.fieldNotFound r.name key)
        | some type => .ok type

def replay [Monad m] (past : List (ServiceCall m Entity)) :
    List (ServiceCall m Entity) → m (List (ServiceAnswer Entity))
  | [] => pure []
  | call :: calls => do
    let first ← answerAfter past call
    let others ← replay (past ++ [call]) calls
    return first :: others

/-- The request to a repository that a call makes after some calls, if it makes one. -/
def request? (past : List (ServiceCall m Entity)) :
    ServiceCall m Entity → Option (Finder m Entity × Criteria)
  | .search entity _ criteria =>
    (lastRecord past entity).map fun r =>
      (r.repository, r.resolveCriteria criteria)
  | _ => none

def requests (past : List (ServiceCall m Entity)) :
    List (ServiceCall m Entity) → List (Finder m Entity × Criteria)
  | [] => []
  | call :: calls => (request? past call).toList ++ requests (past ++ [call]) calls

theorem registrations_concat (past : List (ServiceCall m Entity)) (call : ServiceCall m Entity) :
    registrations (past ++ [call]) = registrations past ++ call.registration?.toList := by
  rw [registrations, List.filterMap_append, List.filterMap_cons, List.filterMap_nil]
  cases call.registration? <;> rfl

end ServiceCall

namespace SearchService

open ServiceCall

variable {m : Type → Type} {Entity : Type}

theorem after_concat (past : List (ServiceCall m Entity)) (call : ServiceCall m Entity) :
    after (past ++ [call]) = (after past).next call := by
  rw [after, List.foldl_append]
  rfl

theorem next_of_descriptors (s : SearchService m Entity) {entity : EntityId}
    {schema : EntitySchema} {filters : List FilterDescriptor} (finder : Finder m Entity)
    (h : schema.descriptors = .ok filters) :
    (s.next (.register entity schema finder)).registry =
      (s.registry.register ⟨entity, schema.name, filters, finder⟩).2 := by
  rw [next, register, h]
  rfl

theorem next_of_error (s : SearchService m Entity) {entity : EntityId} {schema : EntitySchema}
    {e : SearchError} (finder : Finder m Entity) (h : schema.descriptors = .error e) :
    s.next (.register entity schema finder) = s := by
  rw [next, register, h]
  rfl

/-- A call registers its record, if it has one, and changes nothing else. -/
theorem keeps_next {s : SearchService m Entity} {past : List (ServiceCall m Entity)}
    (h : s.registry.Keeps (registrations past)) (call : ServiceCall m Entity) :
    (s.next call).registry.Keeps (registrations (past ++ [call])) := by
  rw [registrations_concat]
  cases call with
  | register entity schema finder =>
    -- Only here the state changes, and only if the schema has descriptors.
    rw [registration?]
    cases hschema : schema.descriptors with
    | error e =>
      rw [next_of_error s finder hschema]
      exact (List.append_nil (registrations past)).symm ▸ h
    | ok filters =>
      rw [next_of_descriptors s finder hschema]
      exact h.register _
  | _ => exact (List.append_nil (registrations past)).symm ▸ h

theorem keeps_after (past : List (ServiceCall m Entity)) :
    (after past).registry.Keeps (registrations past) := by
  induction past using List.reverseRecOn with
  | nil => exact Registry.keeps_empty
  | append_singleton past call ih =>
    rw [after_concat]
    exact keeps_next ih call

theorem get?_after (past : List (ServiceCall m Entity)) (entity : EntityId) :
    (after past).registry.get? entity = lastRecord past entity :=
  (keeps_after past).get?_eq entity

theorem search_after [Monad m] (past : List (ServiceCall m Entity)) (entity : EntityId)
    (name : String) (criteria : Criteria) :
    (after past).search entity name criteria =
      match lastRecord past entity with
      | none => pure (.error (.notRegistered name))
      | some r => r.repository (r.resolveCriteria criteria) := by
  rw [search, get?_after]
  cases h : lastRecord past entity with
  | none => rfl
  | some r =>
    -- The record is one of the type, so its repository answers for the type.
    have hentity : r.repositoryFor? entity = some r.repository :=
      if_pos (Registry.entity_of_lastOf h)
    simp only [hentity]

theorem answer_after [Monad m] (past : List (ServiceCall m Entity)) (call : ServiceCall m Entity) :
    (after past).answer call = answerAfter past call := by
  cases call with
  | register entity schema finder =>
    rw [answer, answerAfter, register]
    cases schema.descriptors <;> rfl
  | search entity name criteria => rw [answer, answerAfter, search_after]
  | isRegistered entity => rw [answer, answerAfter, isRegistered, get?_after]
  | availableFilters entity =>
    rw [answer, answerAfter, availableFilters, get?_after]
    cases lastRecord past entity <;> rfl
  | resolveFieldType entity key =>
    rw [answer, answerAfter, resolveFieldType, get?_after]
    cases lastRecord past entity <;> rfl
  | fieldType entity name key =>
    rw [answer, answerAfter, fieldType, get?_after]
    cases lastRecord past entity with
    | none => rfl
    | some r =>
      dsimp only
      cases r.fieldType? key <;> rfl

theorem run_after [Monad m] (past calls : List (ServiceCall m Entity)) :
    (after past).run calls = replay past calls := by
  induction calls generalizing past with
  | nil => rfl
  | cons call calls ih => rw [run, replay, answer_after, ← after_concat, ih]

def effect [Functor m] {α : Type} (program : m α) : m Unit := (fun _ => ()) <$> program

theorem effect_answerAfter [Monad m] [LawfulMonad m] (past : List (ServiceCall m Entity))
    (call : ServiceCall m Entity) :
    effect (answerAfter past call) =
      forM (request? past call).toList fun request => effect (request.1 request.2) := by
  cases call with
  | search entity name criteria =>
    rw [answerAfter, request?]
    cases lastRecord past entity with
    | none => simp [effect]
    | some r => simp [effect]
  | _ => simp [answerAfter, request?, effect]

/-- The calls of a run make their requests to repositories, one after another, and do nothing
else. -/
theorem effect_replay [Monad m] [LawfulMonad m] (past calls : List (ServiceCall m Entity)) :
    effect (replay past calls) =
      forM (requests past calls) fun request => effect (request.1 request.2) := by
  induction calls generalizing past with
  | nil => simp [replay, requests, effect]
  | cons call calls ih =>
    rw [requests, List.forM_append, ← effect_answerAfter, ← ih, replay]
    simp [effect]

/-- A service that tells after some calls what their history says. -/
structure Follows [Monad m] (s : SearchService m Entity) (past : List (ServiceCall m Entity)) :
    Prop where
  /-- The record of a type is the one of its last registration. -/
  get?_eq : ∀ entity, s.registry.get? entity = lastRecord past entity
  size_eq : s.registry.size = ((registrations past).map Registration.entity).toFinset.card
  announced_eq : s.registry.announced = Registry.announcementsAfter [] (registrations past)
  /-- A registration gives back what it replaces, and concerns its own type alone. -/
  register_eq : ∀ (entity : EntityId) (schema : EntitySchema) (filters : List FilterDescriptor)
    (finder : Finder m Entity), schema.descriptors = .ok filters →
      s.registry.register ⟨entity, schema.name, filters, finder⟩ =
          (lastRecord past entity, (s.next (.register entity schema finder)).registry) ∧
        ∀ other, (s.next (.register entity schema finder)).registry.get? other =
          if entity = other then some ⟨entity, schema.name, filters, finder⟩
          else s.registry.get? other
  next_of_error : ∀ (entity : EntityId) (schema : EntitySchema) (e : SearchError)
    (finder : Finder m Entity), schema.descriptors = .error e →
      s.next (.register entity schema finder) = s
  /-- Calls are answered from the last record of their type. -/
  run_eq : ∀ calls, s.run calls = replay past calls
  /-- The repositories are asked what the searches ask, each once. -/
  effect_run : ∀ [LawfulMonad m] (calls : List (ServiceCall m Entity)),
    effect (s.run calls) =
      forM (requests past calls) fun request => effect (request.1 request.2)

/-- A service follows the history of its calls, whichever of them are registrations, searches or
questions, and whichever registrations fail. -/
theorem follows_after [Monad m] (past : List (ServiceCall m Entity)) :
    (after past).Follows past where
  get?_eq := get?_after past
  size_eq := (keeps_after past).size_eq
  announced_eq := (keeps_after past).announced_eq
  register_eq entity schema filters finder h := by
    rw [next_of_descriptors _ finder h]
    constructor
    · rw [← get?_after]
      exact Prod.ext (Registry.register_fst _ _) rfl
    · intro other
      exact Registry.get?_register _ _ other
  next_of_error entity schema e finder h := SearchService.next_of_error _ finder h
  run_eq := run_after past
  effect_run calls := by rw [run_after, effect_replay]

end SearchService

end CriteriaSearch
