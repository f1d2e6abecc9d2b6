-- What a cache of schemas hands out over time. Between two requests the files
-- may change in any way: a schema that was given once is given ever after, as
-- the one instance that it was, and until then each request reads the files as
-- they are.
import OperationModels.Proofs.Results
import OperationModels.SchemaLibrary

namespace OperationModels

open Files

namespace SchemaCache

/-! ## A cache in use -/

/-- What happens around a cache: the files change in whatever way, or a schema
is asked for. -/
inductive Event
  | change (disk : Disk)
  | request (name : String)

/-- A request for a schema: the files at the time, the name, and the answer. -/
structure Request where
  disk : Disk
  name : String
  answer : Except Failure SharedSchema

/-- A cache in use: the files and the cache as they are, and the requests so
far. -/
structure Session where
  disk : Disk
  cache : SchemaCache
  requests : List Request

namespace Session

def start (library : SchemaLibrary) (disk : Disk) : Session := ⟨disk, .start library, []⟩

def step (session : Session) : Event → Session
  | .change disk => { session with disk := disk }
  | .request name =>
    let (answer, cache) := session.cache.get session.disk name
    { session with
      cache := cache
      requests := session.requests ++ [⟨session.disk, name, answer⟩] }

def run (session : Session) (events : List Event) : Session := events.foldl step session

theorem step_request (session : Session) (name : String) :
    session.step (.request name) =
      { session with
        cache := (session.cache.get session.disk name).2
        requests := session.requests ++
          [⟨session.disk, name, (session.cache.get session.disk name).1⟩] } := rfl

end Session

/-! ## What was given -/

/-- What the first request of a name that succeeded was given. -/
def given? (requests : List Request) (name : String) : Option SharedSchema :=
  requests.findSome? (fun request =>
    if request.name = name then request.answer.toOption else none)

/-- The names of the requests that succeeded, one for each of them. -/
def namesGiven (requests : List Request) : List String :=
  (requests.filter (fun request => request.answer.isOk)).map Request.name

/-- A request is answered by what the name was given before it; where that is
nothing, by loading the schema from the files of the time. -/
def Request.AnsweredAfter (library : SchemaLibrary) (before : List Request)
    (request : Request) : Prop :=
  match given? before request.name with
  | some shared => request.answer = .ok shared
  | none =>
    request.answer.map SharedSchema.toLoadedSchema = library.load request.disk request.name

theorem given?_append (requests more : List Request) (name : String) :
    given? (requests ++ more) name = (given? requests name).or (given? more name) := by
  unfold given?
  rw [List.findSome?_append]

theorem given?_cons_ok {request : Request} {shared : SharedSchema}
    (h : request.answer = .ok shared) (more : List Request) :
    given? (request :: more) request.name = some shared := by
  unfold given?
  rw [List.findSome?_cons, if_pos rfl, h]
  rfl

theorem given?_singleton_of_ne {request : Request} {name : String} (h : request.name ≠ name) :
    given? [request] name = none := by
  simp [given?, h]

theorem given?_singleton_error {request : Request} {failure : Failure}
    (h : request.answer = .error failure) (name : String) : given? [request] name = none := by
  simp [given?, h, Except.toOption]

/-- Nothing was given to a name whose requests failed. -/
theorem given?_eq_none {requests : List Request} {name : String}
    (h : ∀ request ∈ requests, request.name = name → request.answer.isOk = false) :
    given? requests name = none := by
  unfold given?
  rw [List.findSome?_eq_none_iff]
  intro request hmem
  split
  · rename_i hname
    have hfailed := h request hmem hname
    rwa [← isSome_toOption, Option.isSome_eq_false_iff, Option.isNone_iff_eq_none] at hfailed
  · rfl

theorem namesGiven_append (requests more : List Request) :
    namesGiven (requests ++ more) = namesGiven requests ++ namesGiven more := by
  simp [namesGiven]

theorem mem_namesGiven_iff {requests : List Request} {name : String} :
    name ∈ namesGiven requests ↔ (given? requests name).isSome = true := by
  unfold namesGiven given?
  rw [List.findSome?_isSome_iff, List.mem_map]
  constructor
  · rintro ⟨request, hmem, rfl⟩
    obtain ⟨hrequest, hok⟩ := List.mem_filter.1 hmem
    refine ⟨request, hrequest, ?_⟩
    rw [if_pos rfl, isSome_toOption, hok]
  · rintro ⟨request, hrequest, hsome⟩
    split at hsome
    · rename_i hname
      rw [isSome_toOption] at hsome
      exact ⟨request, List.mem_filter.2 ⟨hrequest, hsome⟩, hname⟩
    · cases hsome

/-! ## One request -/

/-- A request finds the schema in the cache and leaves the cache as it is, or
loads it and puts the new instance there, or fails and leaves the cache. -/
theorem get_cases (cache : SchemaCache) (disk : Disk) (name : String) :
    (∃ shared, cache.loaded.get? name = some shared ∧
      cache.get disk name = (.ok shared, cache)) ∨
    (∃ loaded, cache.loaded.get? name = none ∧ cache.library.load disk name = .ok loaded ∧
      cache.get disk name = (.ok { loaded with number := cache.made },
        { cache with
          loaded := cache.loaded.insert name { loaded with number := cache.made }
          made := cache.made + 1 })) ∨
    (∃ failure, cache.loaded.get? name = none ∧ cache.library.load disk name = .error failure ∧
      cache.get disk name = (.error failure, cache)) := by
  unfold get
  cases hheld : cache.loaded.get? name with
  | some shared => exact .inl ⟨shared, rfl, rfl⟩
  | none =>
    right
    cases hload : cache.library.load disk name with
    | ok loaded => exact .inl ⟨loaded, rfl, rfl, rfl⟩
    | error failure => exact .inr ⟨failure, rfl, rfl, rfl⟩

/-- A request that fails leaves the cache as it is. -/
theorem eq_of_get_error {cache left : SchemaCache} {disk : Disk} {name : String}
    {failure : Failure} (h : cache.get disk name = (.error failure, left)) : left = cache := by
  rcases cache.get_cases disk name with
    ⟨shared, -, hget⟩ | ⟨loaded, -, -, hget⟩ | ⟨known, -, -, hget⟩
  · rw [hget] at h
    cases h
  · rw [hget] at h
    cases h
  · rw [hget] at h
    cases h
    rfl

/-! ## What a request keeps -/

namespace Session

variable {library : SchemaLibrary} {session : Session}

/-- A cache holds what its requests were given first, under the names of those
that succeeded; its instances have numbers of their own; and each request was
answered by what was given before it or else by loading. -/
structure Sound (library : SchemaLibrary) (session : Session) : Prop where
  same : session.cache.library = library
  held : ∀ name, session.cache.loaded.get? name = given? session.requests name
  keys : session.cache.loaded.keys = (namesGiven session.requests).eraseDups
  below : ∀ name shared, session.cache.loaded.get? name = some shared →
    shared.number < session.cache.made
  apart : ∀ name other shared twin, session.cache.loaded.get? name = some shared →
    session.cache.loaded.get? other = some twin → shared.number = twin.number → name = other
  answered : ∀ before request after, session.requests = before ++ request :: after →
    request.AnsweredAfter library before

theorem sound_start (library : SchemaLibrary) (disk : Disk) :
    (start library disk).Sound library where
  same := rfl
  held _ := rfl
  keys := rfl
  below _ _ h := by cases h
  apart _ _ _ _ h := by cases h
  answered before request after h := by
    have hlength := congrArg List.length h
    simp [start] at hlength

theorem Sound.request_held (h : session.Sound library) {name : String} {shared : SharedSchema}
    (hheld : session.cache.loaded.get? name = some shared) :
    Sound library { session with
      requests := session.requests ++ [⟨session.disk, name, .ok shared⟩] } := by
  have hgiven : given? session.requests name = some shared := by rw [← h.held, hheld]
  refine ⟨h.same, ?_, ?_, h.below, h.apart, forall_split_snoc h.answered ?_⟩
  · intro other
    show session.cache.loaded.get? other = given? (session.requests ++ [_]) other
    rw [given?_append, h.held]
    by_cases hname : name = other
    · subst hname
      rw [hgiven, Option.some_or]
    · rw [given?_singleton_of_ne hname, Option.or_none]
  · show session.cache.loaded.keys = (namesGiven (session.requests ++ [_])).eraseDups
    have hmem : name ∈ namesGiven session.requests :=
      mem_namesGiven_iff.2 (by rw [hgiven]; rfl)
    rw [namesGiven_append]
    show _ = (namesGiven session.requests ++ [name]).eraseDups
    rw [eraseDups_snoc, if_pos hmem, h.keys]
  · unfold Request.AnsweredAfter
    dsimp only
    rw [hgiven]

theorem Sound.request_failed (h : session.Sound library) {name : String} {failure : Failure}
    (hnew : session.cache.loaded.get? name = none)
    (hload : session.cache.library.load session.disk name = .error failure) :
    Sound library { session with
      requests := session.requests ++ [⟨session.disk, name, .error failure⟩] } := by
  have hgiven : given? session.requests name = none := by rw [← h.held, hnew]
  refine ⟨h.same, ?_, ?_, h.below, h.apart, forall_split_snoc h.answered ?_⟩
  · intro other
    show session.cache.loaded.get? other = given? (session.requests ++ [_]) other
    rw [given?_append, given?_singleton_error rfl, Option.or_none, h.held]
  · show session.cache.loaded.keys = (namesGiven (session.requests ++ [_])).eraseDups
    rw [namesGiven_append]
    show _ = (namesGiven session.requests ++ []).eraseDups
    rw [List.append_nil, h.keys]
  · unfold Request.AnsweredAfter
    dsimp only
    rw [hgiven, ← h.same, hload]
    rfl

/-- A schema that is loaded gets the next number, so no other instance has it. -/
theorem Sound.request_loaded (h : session.Sound library) {name : String} {loaded : LoadedSchema}
    (hnew : session.cache.loaded.get? name = none)
    (hload : session.cache.library.load session.disk name = .ok loaded) :
    Sound library
      { session with
        cache := { session.cache with
          loaded := session.cache.loaded.insert name
            { loaded with number := session.cache.made }
          made := session.cache.made + 1 }
        requests := session.requests ++
          [⟨session.disk, name, .ok { loaded with number := session.cache.made }⟩] } := by
  have hgiven : given? session.requests name = none := by rw [← h.held, hnew]
  refine ⟨h.same, ?_, ?_, ?_, ?_, forall_split_snoc h.answered ?_⟩
  · intro other
    dsimp only
    rw [OrderedMap.get?_insert, given?_append]
    by_cases hname : other = name
    · subst hname
      rw [if_pos rfl, hgiven, Option.none_or]
      exact (given?_cons_ok rfl []).symm
    · rw [if_neg hname, given?_singleton_of_ne (Ne.symm hname), Option.or_none, h.held]
  · dsimp only
    rw [OrderedMap.keys_insert, h.keys, namesGiven_append]
    show _ = (namesGiven session.requests ++ [name]).eraseDups
    rw [eraseDups_snoc]
    simp only [List.mem_eraseDups]
  · intro other shared hget
    dsimp only at hget ⊢
    rw [OrderedMap.get?_insert] at hget
    split at hget
    · cases hget
      exact Nat.lt_succ_self _
    · exact Nat.lt_succ_of_lt (h.below other shared hget)
  · intro first other shared twin hfirst hother hnumber
    dsimp only at hfirst hother
    rw [OrderedMap.get?_insert] at hfirst hother
    split at hfirst <;> split at hother
    · rename_i hfirstName hotherName
      rw [hfirstName, hotherName]
    · cases hfirst
      exact absurd hnumber (Nat.ne_of_gt (h.below other twin hother))
    · cases hother
      exact absurd hnumber (Nat.ne_of_lt (h.below first shared hfirst))
    · exact h.apart first other shared twin hfirst hother hnumber
  · unfold Request.AnsweredAfter
    dsimp only
    rw [hgiven, ← h.same, hload]
    rfl

/-- Whatever happens next, a sound session stays sound. -/
theorem Sound.step (h : session.Sound library) (event : Event) :
    (session.step event).Sound library := by
  cases event with
  | change disk => exact ⟨h.same, h.held, h.keys, h.below, h.apart, h.answered⟩
  | request name =>
    rw [step_request]
    rcases session.cache.get_cases session.disk name with
      ⟨shared, hheld, hget⟩ | ⟨loaded, hnew, hload, hget⟩ | ⟨failure, hnew, hload, hget⟩
    · rw [hget]
      exact h.request_held hheld
    · rw [hget]
      exact h.request_loaded hnew hload
    · rw [hget]
      exact h.request_failed hnew hload

theorem Sound.run (h : session.Sound library) (events : List Event) :
    (session.run events).Sound library := by
  induction events generalizing session with
  | nil => exact h
  | cons event rest ih => exact ih (h.step event)

/-! ## The law -/

theorem Sound.answer_of_failed (h : session.Sound library) {before after : List Request}
    {request : Request} (hsplit : session.requests = before ++ request :: after)
    (hfailed : ∀ earlier ∈ before, earlier.name = request.name → earlier.answer.isOk = false) :
    request.answer.map SharedSchema.toLoadedSchema =
      library.load request.disk request.name := by
  have hanswered := h.answered before request after hsplit
  unfold Request.AnsweredAfter at hanswered
  rwa [given?_eq_none hfailed] at hanswered

/-- What a request is given is what its name was given first. -/
theorem Sound.given?_of_ok (h : session.Sound library) {before after : List Request}
    {request : Request} (hsplit : session.requests = before ++ request :: after)
    {shared : SharedSchema} (hok : request.answer = .ok shared) (more : List Request) :
    given? (before ++ request :: more) request.name = some shared := by
  have hanswered := h.answered before request after hsplit
  unfold Request.AnsweredAfter at hanswered
  rw [given?_append]
  cases hbefore : given? before request.name with
  | none => rw [Option.none_or, given?_cons_ok hok]
  | some known =>
    rw [hbefore, hok] at hanswered
    cases hanswered
    rfl

theorem Sound.answer_of_ok (h : session.Sound library) {before after : List Request}
    {request later : Request} (hsplit : session.requests = before ++ request :: after)
    {shared : SharedSchema} (hok : request.answer = .ok shared) (hlater : later ∈ after)
    (hname : later.name = request.name) : later.answer = .ok shared := by
  obtain ⟨between, rest, rfl⟩ := List.append_of_mem hlater
  have hgiven := h.given?_of_ok hsplit hok between
  rw [← List.cons_append, ← List.append_assoc] at hsplit
  have hanswered := h.answered _ later rest hsplit
  unfold Request.AnsweredAfter at hanswered
  rwa [hname, hgiven] at hanswered

/-- The cache holds what any request was given. -/
theorem Sound.held_of_ok (h : session.Sound library) {request : Request}
    (hmem : request ∈ session.requests) {shared : SharedSchema}
    (hok : request.answer = .ok shared) :
    session.cache.loaded.get? request.name = some shared := by
  obtain ⟨before, after, hsplit⟩ := List.append_of_mem hmem
  rw [h.held, hsplit, h.given?_of_ok hsplit hok]

/-- What the requests of a session are given, whatever happens to the files
between them. -/
structure GivesFirst (library : SchemaLibrary) (session : Session) : Prop where
  /-- As long as the requests of a name fail, the next one gives what loading
  gives on the files of its time. -/
  loads : ∀ before request after, session.requests = before ++ request :: after →
    (∀ earlier ∈ before, earlier.name = request.name → earlier.answer.isOk = false) →
      request.answer.map SharedSchema.toLoadedSchema =
        library.load request.disk request.name
  /-- Once a request gives an instance, all later ones of its name give that
  very instance. -/
  stays : ∀ before request after shared, session.requests = before ++ request :: after →
    request.answer = .ok shared → ∀ later ∈ after, later.name = request.name →
      later.answer = .ok shared
  /-- An instance is given to one name only. -/
  apart : ∀ request ∈ session.requests, ∀ other ∈ session.requests, ∀ shared twin,
    request.answer = .ok shared → other.answer = .ok twin → shared.number = twin.number →
      request.name = other.name
  /-- A request that fails leaves the cache as it is. -/
  unchanged : ∀ name failure left,
    session.cache.get session.disk name = (.error failure, left) → left = session.cache
  /-- The cache holds one schema for each name that was given one. -/
  size : session.cache.size = (namesGiven session.requests).eraseDups.length

/-- A cache gives each name what it gave it first, through all requests and all
changes of the files. -/
theorem givesFirst_run (library : SchemaLibrary) (disk : Disk) (events : List Event) :
    ((start library disk).run events).GivesFirst library := by
  have hsound := (sound_start library disk).run events
  refine ⟨?_, ?_, ?_, ?_, ?_⟩
  · intro before request after hsplit hfailed
    exact hsound.answer_of_failed hsplit hfailed
  · intro before request after shared hsplit hok later hlater hname
    exact hsound.answer_of_ok hsplit hok hlater hname
  · intro request hrequest other hother shared twin hok htwin hnumber
    have hheld := hsound.held_of_ok hrequest hok
    have htwinHeld := hsound.held_of_ok hother htwin
    exact hsound.apart _ _ _ _ hheld htwinHeld hnumber
  · intro name failure left hget
    exact eq_of_get_error hget
  · rw [← hsound.keys]
    exact (List.length_map _).symm

end Session

end SchemaCache

end OperationModels
