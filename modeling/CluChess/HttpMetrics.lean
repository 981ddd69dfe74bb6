import Mathlib.Algebra.Order.Ring.Rat
import Mathlib.Data.Finset.Prod
import Mathlib.Data.List.Sort
import CluChess.AnsweringMachine
import CluChess.KeyedTable
import CluChess.UuidText
import CluChess.WireProtocol

/-! `metrics.service.ts` and `http-metrics.middleware.ts`: families of metrics with at most a
fixed number of series each, and the listener that records every finished request in two of
them. -/
namespace CluChess

inductive MetricKind
  | counter | gauge | histogram
  deriving DecidableEq, Repr

abbrev MetricLabels := List (String × String)

structure MetricSample where
  bucketCounts : List ℕ
  labels : MetricLabels
  count : ℕ
  sum : ℚ
  value : ℚ
  deriving DecidableEq

/-- A family, with its samples under the keys of their labels. -/
structure MetricFamily where
  buckets : List ℚ
  help : String
  kind : MetricKind
  samples : Table (Prod.fst : String × MetricSample → String)

structure MetricsService where
  enabled : Bool
  families : String → Option MetricFamily

def defaultDurationBuckets : List ℚ :=
  [5/1000,1/100,25/1000,5/100,1/10,1/4,1/2,1,5/2,5]

def eventLoopBuckets : List ℚ :=
  [1/1000,5/1000,1/100,25/1000,5/100,7/100,1/10,1/4,1/2,1]

def maxSeriesPerFamily : ℕ := 100

/-! ### Names and labels -/

def isNameStart (c : Char) : Bool := c.isAlpha || c = '_'

def isLabelName (key : String) : Bool :=
  match key.toList with
  | [] => false
  | c :: cs => isNameStart c && cs.all fun c => isNameStart c || c.isDigit

def isMetricName (name : String) : Bool :=
  match name.toList with
  | [] => false
  | c :: cs => (isNameStart c || c = ':') && cs.all fun c => isNameStart c || c = ':' || c.isDigit

/-- The label names that `FORBIDDEN_LABEL_KEY` matches, in lower case. -/
def forbiddenLabelKeys : List String :=
  (["guest","guest_session","game","event","socket","correlation","client_move","token"].flatMap
    fun name => [name ++ "id",name ++ "_id"]) ++ ["jti","ip","address"]

def isForbiddenLabelKey (key : String) : Bool :=
  String.ofList (key.toList.map Char.toLower) ∈ forbiddenLabelKeys

def assertMetricName (name : String) : Except String Unit :=
  if isMetricName name then .ok () else .error ("Invalid Prometheus metric name: " ++ name)

def assertLabel (label : String × String) : Except String Unit :=
  if !isLabelName label.1 || label.1 = "le" then
    .error ("Invalid Prometheus label name: " ++ label.1)
  else if isForbiddenLabelKey label.1 then
    .error ("High-cardinality metric label is forbidden: " ++ label.1)
  else if jsLength label.2 > 128 then
    .error ("Prometheus label " ++ label.1 ++ " exceeds 128 characters.")
  else .ok ()

def assertLabels (labels : MetricLabels) : Except String Unit := labels.forM assertLabel

/-- `labelKey`. Labels have lower-case names, for which `localeCompare` is the order of the
characters. -/
def labelKey (labels : MetricLabels) : String :=
  String.intercalate "," ((labels.insertionSort fun a b => a.1 ≤ b.1).map fun label =>
    label.1 ++ "=" ++ label.2)

def normalizeBuckets (buckets : List ℚ) : Except String (List ℚ) :=
  let normalized := buckets.dedup.insertionSort (· ≤ ·)
  if normalized = [] ∨ ∃ bucket ∈ normalized, bucket ≤ 0 then
    .error "Prometheus histogram buckets must be positive."
  else .ok normalized

/-! ### Samples -/

namespace MetricFamily

def empty (kind : MetricKind) (help : String) (buckets : List ℚ) : MetricFamily :=
  ⟨buckets,help,kind,.empty⟩

/-- The family with this sample under its key. -/
def write (family : MetricFamily) (key : String) (sample : MetricSample) : MetricFamily :=
  { family with
    samples := match family.samples.insert (key,sample) with
      | some samples => samples
      | none => family.samples.put (key,sample) }

end MetricFamily

namespace MetricsService

variable (service : MetricsService)

/-- `sample`: the family of a name and the sample of some labels, which is added if it is new and
there is room for it. -/
def sample (name : String) (kind : MetricKind) (help : String) (labels : MetricLabels)
    (buckets : List ℚ) : Except String (MetricFamily × MetricSample) := do
  assertMetricName name
  assertLabels labels
  let family ← match service.families name with
    | some existing =>
      if existing.kind ≠ kind ∨ existing.help ≠ help ∨ existing.buckets ≠ buckets then
        .error ("Metric " ++ name ++ " was registered inconsistently.")
      else .ok existing
    | none => .ok (.empty kind help buckets)
  match family.samples.find (labelKey labels) with
  | some existing => .ok (family,existing.2)
  | none =>
    if family.samples.rows.length ≥ maxSeriesPerFamily then
      .error ("Metric " ++ name ++ " exceeded its bounded series limit.")
    else .ok (family,⟨buckets.map fun _ => 0,labels,0,0,0⟩)

def write (name : String) (labels : MetricLabels) (family : MetricFamily)
    (sample : MetricSample) : MetricsService :=
  { service with
    families := Function.update service.families name
      (some (family.write (labelKey labels) sample)) }

def increment (name help : String) (labels : MetricLabels) (value : ℚ) :
    Except String MetricsService :=
  if !service.enabled then .ok service
  else do
    let (family,sample) ← service.sample name .counter help labels []
    .ok (service.write name labels family { sample with value := sample.value + value })

def observed (sample : MetricSample) (value : ℚ) (buckets : List ℚ) : MetricSample :=
  { sample with
    bucketCounts := (sample.bucketCounts.zip buckets).map fun (count,upperBound) =>
      if value ≤ upperBound then count + 1 else count
    count := sample.count + 1
    sum := sample.sum + value }

/-- `observe`. A value is a number here, so it is finite. -/
def observe (name help : String) (value : ℚ) (labels : MetricLabels) (buckets : List ℚ) :
    Except String MetricsService :=
  if !service.enabled then .ok service
  else if value < 0 then .error ("Histogram " ++ name ++ " cannot observe a negative value.")
  else do
    let normalizedBuckets ← normalizeBuckets buckets
    let (family,sample) ← service.sample name .histogram help labels normalizedBuckets
    .ok (service.write name labels family (observed sample value normalizedBuckets))

def create (enabled : Bool) (instanceId : String) : Except String MetricsService := do
  let service : MetricsService := ⟨enabled,fun _ => none⟩
  let started ← service.increment "cluchess_process_restarts_total"
    "Application process starts by instance." [("instance",instanceId)] 1
  started.observe "nodejs_eventloop_lag_seconds"
    "Observed event-loop p99 delay by sampling interval." 0 [("instance",instanceId)]
    eventLoopBuckets

end MetricsService

/-! ### The middleware -/

def knownPaths : List String :=
  ["/healthz","/metrics","/readyz","/v1/games/:id/snapshot","/v1/games/active","/v1/session",
    "/v1/session/renew","/v1/session/reset"]

/-- `UUID_PATH_SEGMENT` matches at the start of the text. -/
def isUuidSegment (text : List Char) : Bool :=
  match text with
  | [] => false
  | c :: rest => c = '/' && isUuidV4Text (String.ofList (rest.take 36)) &&
      (rest.drop 36).head?.all fun next => next = '/'

/-- `replace(UUID_PATH_SEGMENT, '/:id')`; the number is that of characters of a match that are
still to be passed. -/
def replaceUuids : ℕ → List Char → List Char
  | _, [] => []
  | skip + 1, _ :: rest => replaceUuids skip rest
  | 0, c :: rest =>
    if isUuidSegment (c :: rest) then "/:id".toList ++ replaceUuids 36 rest
    else c :: replaceUuids 0 rest

def boundedPath (path : String) : String :=
  let normalized := String.ofList (replaceUuids 0 path.toList)
  if normalized ∈ knownPaths then normalized else "/other"

def nodeMethods : List String :=
  ["ACL","BIND","CHECKOUT","CONNECT","COPY","DELETE","GET","HEAD","LINK","LOCK","M-SEARCH","MERGE",
    "MKACTIVITY","MKCALENDAR","MKCOL","MOVE","NOTIFY","OPTIONS","PATCH","POST","PROPFIND",
    "PROPPATCH","PURGE","PUT","QUERY","REBIND","REPORT","SEARCH","SOURCE","SUBSCRIBE","TRACE",
    "UNBIND","UNLINK","UNLOCK","UNSUBSCRIBE"]

/-- A request whose response is finished, as Node hands it over: the parser has admitted the
method, the response has a status that can be sent, and the clock has not gone back. -/
structure FinishedRequest where
  method : String
  path : String
  statusCode : ℕ
  seconds : ℚ
  method_admitted : method ∈ nodeMethods
  statusCode_valid : 100 ≤ statusCode ∧ statusCode ≤ 999
  seconds_nonneg : 0 ≤ seconds

def httpRequestsTotal : String := "cluchess_http_requests_total"

def httpRequestDurationSeconds : String := "cluchess_http_request_duration_seconds"

/-- The listener of `finish`: what it throws, and the service that it leaves. -/
def HttpMetricsMiddleware.finish (service : MetricsService) (request : FinishedRequest) :
    Except String Unit × MetricsService :=
  let path := boundedPath request.path
  let labels := [("method",request.method),("path",path),("status",toString request.statusCode)]
  match service.increment httpRequestsTotal
      "HTTP requests by method, bounded path, and response status." labels 1 with
  | .error error => (.error error,service)
  | .ok counted =>
    match counted.observe httpRequestDurationSeconds
        "HTTP request duration by method and bounded path." request.seconds
        [("method",request.method),("path",path)] defaultDurationBuckets with
    | .error error => (.error error,counted)
    | .ok observed => (.ok (),observed)

def httpMetrics : Machine MetricsService FinishedRequest (Except String Unit) :=
  ⟨HttpMetricsMiddleware.finish⟩

/-! ### Series of a family -/

namespace MetricsService

variable {service : MetricsService} {name help : String} {kind : MetricKind}
  {labels : MetricLabels} {buckets : List ℚ}

def series (service : MetricsService) (name : String) : Finset String :=
  match service.families name with
  | none => ∅
  | some family => (family.samples.rows.map Prod.fst).toFinset

/-- The family is registered like this, if it is registered. -/
def Registered (service : MetricsService) (name : String) (kind : MetricKind) (help : String)
    (buckets : List ℚ) : Prop :=
  ∀ family, service.families name = some family →
    family.kind = kind ∧ family.help = help ∧ family.buckets = buckets

/-- What `increment` and `observe` have in common. -/
def record (service : MetricsService) (name : String) (kind : MetricKind) (help : String)
    (labels : MetricLabels) (buckets : List ℚ) (change : MetricSample → MetricSample) :
    Except String MetricsService := do
  let (family,sample) ← service.sample name kind help labels buckets
  .ok (service.write name labels family (change sample))

theorem increment_eq (h : service.enabled = true) (value : ℚ) :
    service.increment name help labels value =
      service.record name .counter help labels [] fun sample =>
        { sample with value := sample.value + value } := by
  unfold increment
  rw [h]
  rfl

theorem observe_eq (h : service.enabled = true) {value : ℚ} (hvalue : 0 ≤ value)
    (hbuckets : normalizeBuckets buckets = .ok buckets) :
    service.observe name help value labels buckets =
      service.record name .histogram help labels buckets fun sample =>
        observed sample value buckets := by
  unfold observe
  rw [h,if_neg (by simp),if_neg (not_lt.mpr hvalue),hbuckets]
  rfl

theorem mem_series_of_some {family : MetricFamily} (h : service.families name = some family)
    (key : String) : key ∈ service.series name ↔ family.samples.find key ≠ none := by
  unfold series
  rw [h]
  simp only [List.mem_toFinset,List.mem_map]
  constructor
  · rintro ⟨r,hr,rfl⟩
    rw [Table.find_of_mem hr]
    exact Option.some_ne_none r
  · intro hfound
    obtain ⟨r,hr⟩ := Option.ne_none_iff_exists'.mp hfound
    exact ⟨r,Table.find_mem hr,Table.find_key hr⟩

theorem card_series {family : MetricFamily} (h : service.families name = some family) :
    (service.series name).card = family.samples.rows.length := by
  unfold series
  rw [h]
  simp only
  rw [List.toFinset_card_of_nodup family.samples.nodup,List.length_map]

def familyOf (service : MetricsService) (name : String) (kind : MetricKind) (help : String)
    (buckets : List ℚ) : MetricFamily :=
  (service.families name).getD (.empty kind help buckets)

theorem mem_series (key : String) : key ∈ service.series name ↔
    (service.familyOf name kind help buckets).samples.find key ≠ none := by
  cases h : service.families name with
  | none => simp [series,familyOf,h,MetricFamily.empty]
  | some family =>
    rw [mem_series_of_some h,familyOf,h]
    rfl

theorem card_series_eq : (service.series name).card =
    (service.familyOf name kind help buckets).samples.rows.length := by
  cases h : service.families name with
  | none => simp [series,familyOf,h,MetricFamily.empty,Table.empty]
  | some family =>
    rw [card_series h,familyOf,h]
    rfl

theorem find_write (family : MetricFamily) (key other : String) (sample : MetricSample) :
    (family.write key sample).samples.find other ≠ none ↔
      other = key ∨ family.samples.find other ≠ none := by
  unfold MetricFamily.write
  cases hi : family.samples.insert (key,sample) with
  | some samples =>
    have hfound := Table.find_insert hi other
    simp only at hfound ⊢
    rw [hfound]
    by_cases ho : other = key <;> simp [ho]
  | none =>
    have htaken : family.samples.find key ≠ none := Table.insert_eq_none.mp hi
    simp only [Table.find_put]
    by_cases ho : other = key
    · subst ho
      obtain ⟨r,hr⟩ := Option.ne_none_iff_exists'.mp htaken
      simp [hr]
    · simp [ho]

theorem families_write (family : MetricFamily) (sample : MetricSample) :
    (service.write name labels family sample).families name =
      some (family.write (labelKey labels) sample) := Function.update_self ..

/-- The checks of `sample` that do not depend on the series. -/
def Admissible (service : MetricsService) (name : String) (kind : MetricKind) (help : String)
    (labels : MetricLabels) (buckets : List ℚ) : Prop :=
  isMetricName name = true ∧ assertLabels labels = .ok () ∧
    service.Registered name kind help buckets

/-- Behind its checks `sample` finds the sample of its key or has room for a new one. -/
theorem sample_eq (h : service.Admissible name kind help labels buckets) :
    service.sample name kind help labels buckets =
      match (service.familyOf name kind help buckets).samples.find (labelKey labels) with
      | some existing => .ok (service.familyOf name kind help buckets,existing.2)
      | none =>
        if (service.familyOf name kind help buckets).samples.rows.length ≥ maxSeriesPerFamily then
          .error ("Metric " ++ name ++ " exceeded its bounded series limit.")
        else .ok (service.familyOf name kind help buckets,
          ⟨buckets.map fun _ => 0,labels,0,0,0⟩) := by
  obtain ⟨hname,hlabels,hregistered⟩ := h
  unfold sample assertMetricName familyOf
  rw [hname,hlabels]
  cases hfamily : service.families name with
  | none => rfl
  | some family =>
    obtain ⟨hkind,hhelp,hbuckets⟩ := hregistered family hfamily
    simp [hkind,hhelp,hbuckets]
    rfl

/-- A sample whose key is known, or for which there is room, is recorded: the key is added to its
family, and no other family is touched. -/
theorem record_ok (h : service.Admissible name kind help labels buckets)
    (change : MetricSample → MetricSample)
    (hroom : labelKey labels ∈ service.series name ∨
      (service.series name).card < maxSeriesPerFamily) :
    ∃ service', service.record name kind help labels buckets change = .ok service' ∧
      service'.enabled = service.enabled ∧
      service'.series name = insert (labelKey labels) (service.series name) ∧
      service'.Registered name kind help buckets ∧
      ∀ other, other ≠ name → service'.families other = service.families other := by
  have hfound : ∃ sample, service.sample name kind help labels buckets =
      .ok (service.familyOf name kind help buckets,sample) := by
    rw [sample_eq h]
    cases hf : (service.familyOf name kind help buckets).samples.find (labelKey labels) with
    | some existing => exact ⟨existing.2,rfl⟩
    | none =>
      have hnew : labelKey labels ∉ service.series name := fun hmem =>
        (mem_series (labelKey labels)).mp hmem hf
      have hspace := hroom.resolve_left hnew
      rw [card_series_eq] at hspace
      exact ⟨_,if_neg (not_le.mpr hspace)⟩
  obtain ⟨sample,hsample⟩ := hfound
  refine ⟨service.write name labels (service.familyOf name kind help buckets) (change sample),?_,
    rfl,?_,?_,fun other hother => Function.update_of_ne hother ..⟩
  · unfold record
    rw [hsample]
    rfl
  · ext key
    rw [mem_series_of_some (families_write _ _),find_write,Finset.mem_insert,← mem_series]
  · intro family hfamily
    rw [families_write] at hfamily
    cases hfamily
    cases hold : service.families name with
    | none =>
      have hempty : service.familyOf name kind help buckets = .empty kind help buckets := by
        rw [familyOf,hold]
        rfl
      rw [hempty]
      exact ⟨rfl,rfl,rfl⟩
    | some old =>
      have hsame : service.familyOf name kind help buckets = old := by
        rw [familyOf,hold]
        rfl
      rw [hsame]
      exact h.2.2 old hold

def SameElsewhere (service service' : MetricsService) (name : String) : Prop :=
  service'.enabled = service.enabled ∧
    ∀ other, other ≠ name → service'.families other = service.families other

theorem record_elsewhere {service' : MetricsService} {change : MetricSample → MetricSample}
    (h : service.record name kind help labels buckets change = .ok service') :
    service.SameElsewhere service' name := by
  unfold record at h
  cases hsample : service.sample name kind help labels buckets with
  | error error =>
    rw [hsample] at h
    cases h
  | ok found =>
    rw [hsample] at h
    cases h
    exact ⟨rfl,fun other hother => Function.update_of_ne hother ..⟩

theorem increment_elsewhere {service' : MetricsService} {value : ℚ}
    (h : service.increment name help labels value = .ok service') :
    service.SameElsewhere service' name := by
  cases henabled : service.enabled with
  | true =>
    rw [increment_eq henabled] at h
    exact record_elsewhere h
  | false =>
    unfold increment at h
    rw [henabled] at h
    cases h
    exact ⟨rfl,fun _ _ => rfl⟩

theorem observe_elsewhere {service' : MetricsService} {value : ℚ}
    (h : service.observe name help value labels buckets = .ok service') (hvalue : 0 ≤ value)
    (hbuckets : normalizeBuckets buckets = .ok buckets) :
    service.SameElsewhere service' name := by
  cases henabled : service.enabled with
  | true =>
    rw [observe_eq henabled hvalue hbuckets] at h
    exact record_elsewhere h
  | false =>
    unfold observe at h
    rw [henabled] at h
    cases h
    exact ⟨rfl,fun _ _ => rfl⟩

theorem record_error (h : service.Admissible name kind help labels buckets)
    (change : MetricSample → MetricSample)
    (hnew : labelKey labels ∉ service.series name)
    (hfull : maxSeriesPerFamily ≤ (service.series name).card) :
    service.record name kind help labels buckets change =
      .error ("Metric " ++ name ++ " exceeded its bounded series limit.") := by
  have hnone : (service.familyOf name kind help buckets).samples.find (labelKey labels) = none := by
    by_contra hfound
    exact hnew ((mem_series (labelKey labels)).mpr hfound)
  rw [card_series_eq] at hfull
  unfold record
  rw [sample_eq h,hnone]
  simp only
  rw [if_pos hfull]
  rfl

end MetricsService

/-! ### The series of a request -/

/-- What distinguishes the series of requests. -/
structure HttpSeries where
  method : String
  path : String
  statusCode : ℕ
  deriving DecidableEq, Repr

namespace HttpSeries

variable {a b : HttpSeries}

def boundedPaths : List String := knownPaths ++ ["/other"]

/-- The series of a finished request is like this. -/
def Valid (a : HttpSeries) : Prop :=
  a.method ∈ nodeMethods ∧ a.path ∈ boundedPaths ∧ a.statusCode ≤ 999

def requestLabels (a : HttpSeries) : MetricLabels :=
  [("method",a.method),("path",a.path),("status",toString a.statusCode)]

def durationLabels (a : HttpSeries) : MetricLabels := [("method",a.method),("path",a.path)]

/-- The texts from which the labels are made are short and have no comma. -/
def isPlain (text : String) : Bool := decide (jsLength text ≤ 128) && text.toList.all (· ≠ ',')

theorem boundedPath_mem (path : String) : boundedPath path ∈ boundedPaths := by
  unfold boundedPath boundedPaths
  simp only
  split_ifs with h
  · exact List.mem_append_left _ h
  · exact List.mem_append_right _ (List.mem_singleton_self _)

example : boundedPath "/v1/games/00000000-0000-4000-8000-00000000000A/snapshot" =
    "/v1/games/:id/snapshot" := by decide

theorem nodeMethods_plain : nodeMethods.all isPlain = true := by decide

theorem boundedPaths_plain : boundedPaths.all isPlain = true := by decide

theorem Valid.method_plain (h : a.Valid) : isPlain a.method = true :=
  List.all_eq_true.mp nodeMethods_plain _ h.1

theorem Valid.path_plain (h : a.Valid) : isPlain a.path = true :=
  List.all_eq_true.mp boundedPaths_plain _ h.2.1

theorem length_of_plain {text : String} (h : isPlain text = true) : jsLength text ≤ 128 :=
  of_decide_eq_true (Bool.and_eq_true_iff.mp h).1

theorem no_comma_of_plain {text : String} (h : isPlain text = true) : ',' ∉ text.toList := by
  intro hmem
  have hall := List.all_eq_true.mp (Bool.and_eq_true_iff.mp h).2 ',' hmem
  cases hall

theorem jsLength_status (h : a.statusCode ≤ 999) : jsLength (toString a.statusCode) ≤ 128 := by
  have hdigits : (toString a.statusCode).length ≤ 3 :=
    (Nat.length_repr_le_iff (by decide)).mpr (Nat.lt_succ_of_le h)
  have hunits := jsLength_le (toString a.statusCode)
  omega

theorem assertLabel_ok {key value : String} (hname : isLabelName key = true) (hle : key ≠ "le")
    (hfree : isForbiddenLabelKey key = false) (hlength : jsLength value ≤ 128) :
    assertLabel (key,value) = .ok () := by
  unfold assertLabel
  simp [hname,hle,hfree,not_lt.mpr hlength]

theorem assertLabels_cons {label : String × String} {labels : MetricLabels}
    (hlabel : assertLabel label = .ok ()) (hlabels : assertLabels labels = .ok ()) :
    assertLabels (label :: labels) = .ok () := by
  unfold assertLabels at hlabels ⊢
  rw [← hlabels]
  show (assertLabel label >>= fun _ => labels.forM assertLabel) = _
  rw [hlabel]
  rfl

theorem Valid.method_ok (h : a.Valid) : assertLabel ("method",a.method) = .ok () :=
  assertLabel_ok (by decide) (by decide) (by decide) (length_of_plain h.method_plain)

theorem Valid.path_ok (h : a.Valid) : assertLabel ("path",a.path) = .ok () :=
  assertLabel_ok (by decide) (by decide) (by decide) (length_of_plain h.path_plain)

theorem Valid.requestLabels_ok (h : a.Valid) : assertLabels a.requestLabels = .ok () := by
  have hstatus : assertLabel ("status",toString a.statusCode) = .ok () :=
    assertLabel_ok (by decide) (by decide) (by decide) (jsLength_status h.2.2)
  exact assertLabels_cons h.method_ok (assertLabels_cons h.path_ok (assertLabels_cons hstatus rfl))

theorem Valid.durationLabels_ok (h : a.Valid) : assertLabels a.durationLabels = .ok () :=
  assertLabels_cons h.method_ok (assertLabels_cons h.path_ok rfl)

theorem labelKey_requestLabels (a : HttpSeries) : labelKey a.requestLabels =
    "method=" ++ a.method ++ "," ++ ("path=" ++ a.path) ++ "," ++
      ("status=" ++ toString a.statusCode) := by
  have h₁ : ("method" : String) ≤ "path" := by decide
  have h₂ : ("path" : String) ≤ "status" := by decide
  unfold labelKey requestLabels
  simp only [List.insertionSort,List.orderedInsert,h₁,h₂,if_true,List.foldr]
  rfl

/-- Parts of a text before and after a first mark are told apart by it. -/
theorem append_mark_inj {α : Type*} {mark : α} {a a' b b' : List α} (ha : mark ∉ a)
    (ha' : mark ∉ a') (h : a ++ mark :: b = a' ++ mark :: b') : a = a' ∧ b = b' := by
  induction a generalizing a' with
  | nil =>
    cases a' with
    | nil => exact ⟨rfl,(List.cons.inj h).2⟩
    | cons x a' => exact absurd (List.cons.inj h).1 fun he => ha' (he ▸ List.mem_cons_self)
  | cons x a ih =>
    cases a' with
    | nil => exact absurd (List.cons.inj h).1.symm fun he => ha (he ▸ List.mem_cons_self)
    | cons y a' =>
      obtain ⟨rfl,htail⟩ := List.cons.inj h
      obtain ⟨rfl,hb⟩ := ih (fun hm => ha (List.mem_cons_of_mem _ hm))
        (fun hm => ha' (List.mem_cons_of_mem _ hm)) htail
      exact ⟨rfl,hb⟩

theorem toString_inj {m n : ℕ} (h : toString m = toString n) : m = n := by
  have hdigits : Nat.toDigits 10 m = Nat.toDigits 10 n := by
    have hrepr : m.repr = n.repr := h
    rw [Nat.repr_eq_ofList_toDigits,Nat.repr_eq_ofList_toDigits] at hrepr
    exact String.ofList_injective hrepr
  rw [← Nat.ofDigitChars_ten_toDigits (n := m),hdigits,Nat.ofDigitChars_ten_toDigits]

/-- Requests of different series have different keys. -/
theorem labelKey_inj (ha : a.Valid) (hb : b.Valid)
    (h : labelKey a.requestLabels = labelKey b.requestLabels) : a = b := by
  rw [labelKey_requestLabels,labelKey_requestLabels] at h
  have hlist := congrArg String.toList h
  simp only [String.toList_append,List.append_assoc] at hlist
  obtain ⟨hmethod,hrest⟩ := append_mark_inj (no_comma_of_plain ha.method_plain)
    (no_comma_of_plain hb.method_plain) (List.append_cancel_left hlist)
  obtain ⟨hpath,hstatus⟩ := append_mark_inj (no_comma_of_plain ha.path_plain)
    (no_comma_of_plain hb.path_plain) (List.append_cancel_left hrest)
  have hcode := toString_inj (String.toList_injective (List.append_cancel_left hstatus))
  cases a
  cases b
  simp only [HttpSeries.mk.injEq]
  exact ⟨String.toList_injective hmethod,String.toList_injective hpath,hcode⟩

end HttpSeries

/-! ### The listener -/

section Listener

variable {service : MetricsService} {request : FinishedRequest} {past : Finset HttpSeries}

def FinishedRequest.series (request : FinishedRequest) : HttpSeries :=
  ⟨request.method,boundedPath request.path,request.statusCode⟩

theorem FinishedRequest.series_valid (request : FinishedRequest) : request.series.Valid :=
  ⟨request.method_admitted,HttpSeries.boundedPath_mem request.path,request.statusCode_valid.2⟩

def httpRequestsHelp : String := "HTTP requests by method, bounded path, and response status."

def httpDurationHelp : String := "HTTP request duration by method and bounded path."

/-- The service is on, and its two families of requests have the series of these requests. -/
structure RecordsExactly (service : MetricsService) (past : Finset HttpSeries) : Prop where
  enabled : service.enabled = true
  valid : ∀ a ∈ past, a.Valid
  requests : service.Registered httpRequestsTotal .counter httpRequestsHelp []
  requestSeries : service.series httpRequestsTotal =
    past.image fun a => labelKey a.requestLabels
  durations : service.Registered httpRequestDurationSeconds .histogram httpDurationHelp
    defaultDurationBuckets
  durationSeries : service.series httpRequestDurationSeconds =
    past.image fun a => labelKey a.durationLabels

theorem RecordsExactly.card (h : RecordsExactly service past) :
    (service.series httpRequestsTotal).card = past.card := by
  rw [h.requestSeries]
  exact Finset.card_image_of_injOn fun a ha b hb hkey =>
    HttpSeries.labelKey_inj (h.valid a ha) (h.valid b hb) hkey

theorem RecordsExactly.mem (h : RecordsExactly service past) {a : HttpSeries} (ha : a.Valid) :
    labelKey a.requestLabels ∈ service.series httpRequestsTotal ↔ a ∈ past := by
  rw [h.requestSeries,Finset.mem_image]
  constructor
  · rintro ⟨b,hb,hkey⟩
    rwa [← HttpSeries.labelKey_inj (h.valid b hb) ha hkey]
  · intro hmem
    exact ⟨a,hmem,rfl⟩

theorem defaultBuckets_normal :
    normalizeBuckets defaultDurationBuckets = .ok defaultDurationBuckets := by decide +kernel

theorem eventLoopBuckets_normal :
    normalizeBuckets eventLoopBuckets = .ok eventLoopBuckets := by decide +kernel

theorem finish_eq (service : MetricsService) (request : FinishedRequest) :
    HttpMetricsMiddleware.finish service request =
      match service.increment httpRequestsTotal httpRequestsHelp request.series.requestLabels 1 with
      | .error error => (.error error,service)
      | .ok counted =>
        match counted.observe httpRequestDurationSeconds httpDurationHelp request.seconds
            request.series.durationLabels defaultDurationBuckets with
        | .error error => (.error error,counted)
        | .ok observed => (.ok (),observed) := rfl

theorem http_families_ne : httpRequestDurationSeconds ≠ httpRequestsTotal := by decide

theorem RecordsExactly.admissible (h : RecordsExactly service past) {a : HttpSeries}
    (ha : a.Valid) :
    service.Admissible httpRequestsTotal .counter httpRequestsHelp a.requestLabels [] :=
  ⟨by decide,ha.requestLabels_ok,h.requests⟩

/-- A request of a new series without room is refused. -/
theorem RecordsExactly.finish_error (h : RecordsExactly service past)
    (hnew : request.series ∉ past) (hfull : maxSeriesPerFamily ≤ past.card) :
    HttpMetricsMiddleware.finish service request =
      (.error ("Metric " ++ httpRequestsTotal ++ " exceeded its bounded series limit."),
        service) := by
  have hvalid := request.series_valid
  rw [finish_eq,MetricsService.increment_eq h.enabled,
    MetricsService.record_error (h.admissible hvalid) _ ((h.mem hvalid).not.mpr hnew)
      (hfull.trans_eq h.card.symm)]

theorem RecordsExactly.finish_ok (h : RecordsExactly service past)
    (hroom : request.series ∈ past ∨ past.card < maxSeriesPerFamily) :
    ∃ service', HttpMetricsMiddleware.finish service request = (.ok (),service') ∧
      RecordsExactly service' (insert request.series past) := by
  have hvalid := request.series_valid
  obtain ⟨counted,hcount,henabled,hseries,hregistered,hother⟩ := MetricsService.record_ok
    (h.admissible hvalid) (fun sample => { sample with value := sample.value + 1 })
    (hroom.imp (h.mem hvalid).mpr (h.card.trans_lt ·))
  have hduration : counted.families httpRequestDurationSeconds =
      service.families httpRequestDurationSeconds := hother _ http_families_ne
  have hdurationSeries : counted.series httpRequestDurationSeconds =
      past.image fun a => labelKey a.durationLabels := by
    rw [← h.durationSeries,MetricsService.series,MetricsService.series,hduration]
  have hadmissible : counted.Admissible httpRequestDurationSeconds .histogram httpDurationHelp
      request.series.durationLabels defaultDurationBuckets :=
    ⟨by decide,hvalid.durationLabels_ok,fun family hf => h.durations family (hduration ▸ hf)⟩
  -- There are no more series of durations than of requests.
  have hspace : labelKey request.series.durationLabels ∈
      counted.series httpRequestDurationSeconds ∨
      (counted.series httpRequestDurationSeconds).card < maxSeriesPerFamily := by
    rw [hdurationSeries]
    rcases hroom with hknown | hroom
    · exact Or.inl (Finset.mem_image_of_mem _ hknown)
    · exact Or.inr (Finset.card_image_le.trans_lt hroom)
  have henabled' : counted.enabled = true := henabled.trans h.enabled
  obtain ⟨observed,hobserve,henabled'',hseries',hregistered',hother'⟩ :=
    MetricsService.record_ok hadmissible (fun sample =>
      MetricsService.observed sample request.seconds defaultDurationBuckets) hspace
  have hrequests : observed.families httpRequestsTotal = counted.families httpRequestsTotal :=
    hother' _ (Ne.symm http_families_ne)
  refine ⟨observed,?_,henabled''.trans henabled',?_,?_,?_,hregistered',?_⟩
  · rw [finish_eq,MetricsService.increment_eq h.enabled,hcount]
    simp only
    rw [MetricsService.observe_eq henabled' request.seconds_nonneg defaultBuckets_normal,hobserve]
  · intro a ha
    rcases Finset.mem_insert.mp ha with rfl | ha
    · exact hvalid
    · exact h.valid a ha
  · intro family hf
    exact hregistered family (hrequests ▸ hf)
  · rw [Finset.image_insert,← h.requestSeries,← hseries,MetricsService.series,
      MetricsService.series,hrequests]
  · rw [hseries',hdurationSeries,Finset.image_insert]

theorem finish_disabled (h : service.enabled = false) (request : FinishedRequest) :
    HttpMetricsMiddleware.finish service request = (.ok (),service) := by
  have hincrement : service.increment httpRequestsTotal httpRequestsHelp
      request.series.requestLabels 1 = .ok service := by
    unfold MetricsService.increment
    rw [h]
    rfl
  have hobserve : service.observe httpRequestDurationSeconds httpDurationHelp request.seconds
      request.series.durationLabels defaultDurationBuckets = .ok service := by
    unfold MetricsService.observe
    rw [h]
    rfl
  rw [finish_eq,hincrement]
  simp only
  rw [hobserve]

/-- From any series recorded so far, the requests of a run are all recorded exactly when their
series fit in. -/
theorem RecordsExactly.run_iff (h : RecordsExactly service past)
    (hpast : past.card ≤ maxSeriesPerFamily) (requests : List FinishedRequest) :
    (∀ e ∈ httpMetrics.events service requests, e.answer = .ok ()) ↔
      (past ∪ (requests.map FinishedRequest.series).toFinset).card ≤ maxSeriesPerFamily := by
  induction requests generalizing service past with
  | nil => simpa using hpast
  | cons request requests ih =>
    have hunion : past ∪ ((request :: requests).map FinishedRequest.series).toFinset =
        insert request.series past ∪ (requests.map FinishedRequest.series).toFinset := by
      rw [List.map_cons,List.toFinset_cons,Finset.union_insert,Finset.insert_union]
    rw [Machine.events_cons,List.forall_mem_cons,hunion]
    by_cases hroom : request.series ∈ past ∨ past.card < maxSeriesPerFamily
    · obtain ⟨service',hfinish,hnext⟩ := h.finish_ok hroom
      have hanswer : (httpMetrics.event service request).answer = .ok () :=
        congrArg Prod.fst hfinish
      have hstep : httpMetrics.next service request = service' := congrArg Prod.snd hfinish
      have hcard : (insert request.series past).card ≤ maxSeriesPerFamily := by
        rcases hroom with hknown | hroom
        · rwa [Finset.insert_eq_of_mem hknown]
        · exact (Finset.card_insert_le _ _).trans hroom
      rw [hstep,and_iff_right hanswer]
      exact ih hnext hcard
    · obtain ⟨hnew,hfull⟩ := not_or.mp hroom
      have hanswer : (httpMetrics.event service request).answer ≠ .ok () := by
        intro hok
        have herror := congrArg Prod.fst (h.finish_error hnew (not_lt.mp hfull))
        have hboth := herror.symm.trans hok
        cases hboth
      have hbeyond : maxSeriesPerFamily <
          (insert request.series past ∪ (requests.map FinishedRequest.series).toFinset).card := by
        have hle : (insert request.series past).card ≤
            (insert request.series past ∪ (requests.map FinishedRequest.series).toFinset).card :=
          Finset.card_le_card Finset.subset_union_left
        rw [Finset.card_insert_of_notMem hnew] at hle
        omega
      constructor
      · intro hall
        exact absurd hall.1 hanswer
      · intro hle
        exact absurd hle (not_le.mpr hbeyond)

theorem create_fresh {enabled : Bool} {instanceId : String}
    (h : MetricsService.create enabled instanceId = .ok service) :
    service.enabled = enabled ∧ service.families httpRequestsTotal = none ∧
      service.families httpRequestDurationSeconds = none := by
  unfold MetricsService.create at h
  cases hstart : MetricsService.increment ⟨enabled,fun _ => none⟩ "cluchess_process_restarts_total"
      "Application process starts by instance." [("instance",instanceId)] 1 with
  | error error =>
    simp only at h
    rw [hstart] at h
    cases h
  | ok started =>
    simp only at h
    rw [hstart] at h
    obtain ⟨henabled,hother⟩ := MetricsService.increment_elsewhere hstart
    obtain ⟨henabled',hother'⟩ := MetricsService.observe_elsewhere h le_rfl eventLoopBuckets_normal
    refine ⟨henabled'.trans henabled,?_,?_⟩
    · exact (hother' _ (by decide)).trans (hother _ (by decide))
    · exact (hother' _ (by decide)).trans (hother _ (by decide))

theorem recordsExactly_fresh (henabled : service.enabled = true)
    (hrequests : service.families httpRequestsTotal = none)
    (hdurations : service.families httpRequestDurationSeconds = none) :
    RecordsExactly service ∅ where
  enabled := henabled
  valid a ha := absurd ha (Finset.notMem_empty a)
  requests family hf := by rw [hrequests] at hf; cases hf
  requestSeries := by rw [MetricsService.series,hrequests]; rfl
  durations family hf := by rw [hdurations] at hf; cases hf
  durationSeries := by rw [MetricsService.series,hdurations]; rfl

end Listener

/-- The listener completes for every request of a run exactly when metrics are off or the requests
have no more distinct methods, bounded paths and statuses than a family has room for. -/
theorem http_metrics_complete_iff (enabled : Bool) (instanceId : String)
    (service : MetricsService) (hcreate : MetricsService.create enabled instanceId = .ok service)
    (requests : List FinishedRequest) :
    (∀ e ∈ httpMetrics.events service requests, e.answer = .ok ()) ↔
      enabled = false ∨
        (requests.map FinishedRequest.series).toFinset.card ≤ maxSeriesPerFamily := by
  obtain ⟨henabled,hrequests,hdurations⟩ := create_fresh hcreate
  cases enabled with
  | false =>
    have hall : ∀ e ∈ httpMetrics.events service requests, e.answer = .ok () := by
      induction requests with
      | nil => exact fun e he => absurd he List.not_mem_nil
      | cons request requests ih =>
        have hstep : httpMetrics.next service request = service :=
          congrArg Prod.snd (finish_disabled henabled request)
        rw [Machine.events_cons,List.forall_mem_cons,hstep]
        exact ⟨congrArg Prod.fst (finish_disabled henabled request),ih⟩
    exact ⟨fun _ => Or.inl rfl,fun _ => hall⟩
  | true =>
    have hrun := (recordsExactly_fresh henabled hrequests hdurations).run_iff (Nat.zero_le _)
      requests
    rw [Finset.empty_union] at hrun
    rw [hrun]
    simp

/-- The methods for which the application has no route. -/
def unroutedMethods : List String :=
  nodeMethods.filter fun method =>
    method ∉ ["CONNECT","DELETE","GET","HEAD","OPTIONS","PATCH","POST","PUT"]

def unroutedPaths : List String :=
  ["/v1/games/active","/v1/session","/v1/session/renew","/v1/session/reset"]

/-- Requests with these methods to known paths, each answered with 404. -/
def unroutedRequests : List FinishedRequest :=
  unroutedMethods.attach.flatMap fun method => unroutedPaths.map fun path =>
    ⟨method.1,path,404,1,(List.mem_filter.mp method.2).1,by decide,zero_le_one⟩

theorem unroutedPaths_bounded : ∀ path ∈ unroutedPaths, boundedPath path = path := by decide

theorem unroutedRequests_series {method path : String} (hmethod : method ∈ unroutedMethods)
    (hpath : path ∈ unroutedPaths) :
    ⟨method,path,404⟩ ∈ unroutedRequests.map FinishedRequest.series := by
  unfold unroutedRequests
  rw [List.map_flatMap]
  refine List.mem_flatMap.mpr ⟨⟨method,hmethod⟩,List.mem_attach _ _,?_⟩
  rw [List.map_map]
  refine List.mem_map.mpr ⟨path,hpath,?_⟩
  simp only [Function.comp_apply,FinishedRequest.series,unroutedPaths_bounded path hpath]

theorem unroutedRequests_card :
    maxSeriesPerFamily < (unroutedRequests.map FinishedRequest.series).toFinset.card := by
  let pair : String × String → HttpSeries := fun x => ⟨x.1,x.2,404⟩
  have hinj : Function.Injective pair := by
    rintro ⟨m,p⟩ ⟨m',p'⟩ h
    cases h
    rfl
  have hsub : (unroutedMethods.toFinset ×ˢ unroutedPaths.toFinset).image pair ⊆
      (unroutedRequests.map FinishedRequest.series).toFinset := by
    intro a ha
    obtain ⟨x,hx,rfl⟩ := Finset.mem_image.mp ha
    obtain ⟨hmethod,hpath⟩ := Finset.mem_product.mp hx
    exact List.mem_toFinset.mpr (unroutedRequests_series (List.mem_toFinset.mp hmethod)
      (List.mem_toFinset.mp hpath))
  have hmethods : unroutedMethods.toFinset.card = 27 := by decide
  have hpaths : unroutedPaths.toFinset.card = 4 := by decide
  have hcard := Finset.card_le_card hsub
  rw [Finset.card_image_of_injective _ hinj,Finset.card_product,hmethods,hpaths] at hcard
  exact lt_of_lt_of_le (by decide) hcard

theorem create_ok : (MetricsService.create true "local").toBool = true := by decide +kernel

theorem exists_created : ∃ service, MetricsService.create true "local" = .ok service := by
  cases h : MetricsService.create true "local" with
  | ok service => exact ⟨service,rfl⟩
  | error error =>
    have hok := create_ok
    rw [h] at hok
    cases hok

theorem http_metrics_complete_iff_sample : ∃ service,
    MetricsService.create true "local" = .ok service ∧
      ∀ e ∈ httpMetrics.events service
        [⟨"GET","/v1/session",200,1,by decide,by decide,zero_le_one⟩], e.answer = .ok () := by
  obtain ⟨service,hcreate⟩ := exists_created
  exact ⟨service,hcreate,(http_metrics_complete_iff true "local" service hcreate _).mpr
    (Or.inr (by decide))⟩

/-- Requests with methods that have no route exhaust the series, and then the listener throws. -/
theorem unrouted_requests_throw : ¬ ∀ enabled instanceId service requests,
    MetricsService.create enabled instanceId = .ok service →
      ∀ e ∈ httpMetrics.events service requests, e.answer = .ok () := by
  intro h
  obtain ⟨service,hcreate⟩ := exists_created
  obtain ⟨henabled,hrequests,hdurations⟩ := create_fresh hcreate
  have hrun := ((recordsExactly_fresh henabled hrequests hdurations).run_iff (Nat.zero_le _)
    unroutedRequests).mp (h true "local" service unroutedRequests hcreate)
  rw [Finset.empty_union] at hrun
  exact absurd hrun (not_le.mpr unroutedRequests_card)

end CluChess
