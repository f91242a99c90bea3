import StockApi.Library.Checked
import StockApi.Library.CivilTime
import StockApi.Library.Dict
import StockApi.Library.Json

/-!
# Typed acquisition calls and the campaign scope

The outbound-attempt identities of `scripts/vendor_acquisition.py` and the stable scope that
names a campaign. Both are addressed by the digest of their documents.
-/

namespace StockApi.Acquisition

open Checked CivilTime

variable {δ : Type}

/-- What a refused operation raises. -/
inductive Raised where
  | acquisitionRefused (message : String)
  | valueError (message : String)
  | typeError
  | indexError
  | invalidRequest
  | costBudgetExceeded (message : String)
  | storeConflict (message : String)
  | storeOutcomeUnknown (message : String)
  | highWaterConflict (message : String)
  | highWaterOutcomeUnknown (message : String)
deriving DecidableEq

def acquisitionSchemaVersion : Int := 2
def requiredSessions : Nat := 258
def maxAuthorizedCalls : Int := 259
def maxRecoveryCalls : Int := 5
def absoluteMaxCampaignCalls : Int := maxAuthorizedCalls + maxRecoveryCalls
def backfillMaxCallsPerWindow : Int := 5
def authorizationSentinel : String := "stockapi-msft-acquisition-only"
def backfillSymbol : String := "MSFT"
def backfillSource : String := "polygon_open_close"
def corporateActionSource : String := "polygon"
def splitsEndpoint : String := "/stocks/v1/splits"
def dividendsEndpoint : String := "/stocks/v1/dividends"

def text (s : String) : Json δ := .str (.plain s)
def hash (d : δ) : Json δ := .str (.digest d)
def isoDate (d : Date) : Json δ := text d.isoformat

theorem text_inj {s t : String} : (text s : Json δ) = text t ↔ s = t := by simp [text]

theorem hash_inj {d e : δ} : hash d = hash e ↔ d = e := by simp [hash]

def isLowerAlnum (c : Char) : Bool := ('a' ≤ c && c ≤ 'z') || ('0' ≤ c && c ≤ '9')

/-- `^[a-z0-9][a-z0-9._-]{2,63}$`. -/
def matchesAuthorizationId (s : String) : Bool :=
  match s.toList with
  | first :: rest =>
    isLowerAlnum first && decide (2 ≤ rest.length ∧ rest.length ≤ 63) &&
      rest.all fun c => isLowerAlnum c || c = '.' || c = '_' || c = '-'
  | [] => false

/-- `^[0-9a-f]{40,64}$`. -/
def matchesGitRevision (s : String) : Bool :=
  decide (40 ≤ s.toList.length ∧ s.toList.length ≤ 64) &&
    s.toList.all fun c => ('0' ≤ c && c ≤ '9') || ('a' ≤ c && c ≤ 'f')

def isNameStart (c : Char) : Bool := ('A' ≤ c && c ≤ 'Z') || ('a' ≤ c && c ≤ 'z') || c = '_'

/-- `^[A-Za-z_][A-Za-z0-9_.]{0,127}$`. -/
def matchesFailureType (s : String) : Bool :=
  match s.toList with
  | first :: rest =>
    isNameStart first && decide (rest.length ≤ 127) &&
      rest.all fun c => isNameStart c || ('0' ≤ c && c ≤ '9') || c = '.'
  | [] => false

/-- A string that the named pattern matches in full; a digest is matched by `_HASH_PATTERN` alone. -/
def matching? (pattern : String → Bool) : Json δ → Option String
  | .str (.plain s) => if pattern s then some s else none
  | _ => none

/-- `_HASH_PATTERN.fullmatch`. -/
def digest? : Json δ → Option δ
  | .str (.digest d) => some d
  | _ => none

/-- `date.fromisoformat` of a value that ought to be text. -/
def isoDate? : Json δ → Option Date
  | .str (.plain s) => Date.fromisoformat s
  | _ => none

@[simp] theorem digest?_eq_some_iff {j : Json δ} {d : δ} : digest? j = some d ↔ j = hash d := by
  cases j with
  | str t => cases t <;> simp [digest?, hash]
  | _ => simp [digest?, hash]

@[simp] theorem matching?_eq_some_iff {pattern : String → Bool} {j : Json δ} {s : String} :
    matching? pattern j = some s ↔ j = text s ∧ pattern s = true := by
  cases j with
  | str t =>
    cases t with
    | plain r =>
      simp only [matching?, text, Json.str.injEq, Text.plain.injEq, Option.ite_none_right_eq_some,
        Option.some.injEq]
      constructor
      · rintro ⟨h, rfl⟩
        exact ⟨rfl, h⟩
      · rintro ⟨rfl, h⟩
        exact ⟨h, rfl⟩
    | digest d => simp [matching?, text]
  | _ => simp [matching?, text]

@[simp] theorem isoDate?_isoDate (d : Date) : isoDate? (isoDate d : Json δ) = some d :=
  Date.fromisoformat_isoformat d

theorem isoDate_injective : Function.Injective (isoDate : Date → Json δ) := by
  intro a b h
  exact Date.isoformat_injective (text_inj.mp h)

/-! ## Calls -/

inductive CallKind where
  | splitPage
  | dividendPage
  | openClose
deriving DecidableEq

def CallKind.name : CallKind → String
  | .splitPage => "split_page"
  | .dividendPage => "dividend_page"
  | .openClose => "open_close"

def CallKind.ofName : Json δ → Option CallKind
  | .str (.plain "split_page") => some .splitPage
  | .str (.plain "dividend_page") => some .dividendPage
  | .str (.plain "open_close") => some .openClose
  | _ => none

/-- The rank of a kind in the action-first order. -/
def CallKind.rank : CallKind → Nat
  | .splitPage => 0
  | .dividendPage => 1
  | .openClose => 2

def CallKind.isAction (kind : CallKind) : Bool := kind = .splitPage || kind = .dividendPage

@[simp] theorem CallKind.ofName_name (kind : CallKind) :
    ofName (text kind.name : Json δ) = some kind := by
  cases kind <;> rfl

theorem CallKind.name_injective : Function.Injective CallKind.name := by
  intro a b h
  cases a <;> cases b <;> simp_all [name]

def openCloseEndpointIdentity (symbol : String) (session : Date) : String :=
  "/v1/open-close/" ++ symbol ++ "/" ++ session.isoformat ++ "?adjusted=false"

def callDocument (kind : CallKind) (endpoint symbol : Json δ) (start stop : Date) : Json δ :=
  .obj [
    ("end", isoDate stop),
    ("endpoint", endpoint),
    ("format", text "stockapi-vendor-acquisition-call-v1"),
    ("kind", text kind.name),
    ("start", isoDate start),
    ("symbol", symbol)]

variable [DecidableEq δ] [ContentHash δ]

/-- One outbound-attempt identity. The symbol, the endpoint and the identity of a valid call
are determined by its kind and window, so only these are stored. -/
structure AcquisitionCall where
  kind : CallKind
  start : Date
  stop : Date
  ordered : start ≤ stop
  single : kind = .openClose → start = stop
deriving DecidableEq

namespace AcquisitionCall

def symbol (_ : AcquisitionCall) : String := backfillSymbol

def endpoint (call : AcquisitionCall) : String :=
  match call.kind with
  | .splitPage => splitsEndpoint
  | .dividendPage => dividendsEndpoint
  | .openClose => openCloseEndpointIdentity backfillSymbol call.start

def callId (call : AcquisitionCall) : δ :=
  contentId (callDocument call.kind (text call.endpoint) (text call.symbol) call.start call.stop)

/-- `AcquisitionCall(...)` with its `__post_init__`. -/
def construct (callId : Json δ) (kind : CallKind) (endpoint symbol : Json δ) (start stop : Date) :
    Except Raised AcquisitionCall :=
  if hScope : symbol ≠ text backfillSymbol ∨ stop < start then
    .error (.acquisitionRefused "acquisition call scope is not canonical")
  else if callId ≠ hash (contentId (callDocument kind endpoint symbol start stop)) then
    .error (.acquisitionRefused "acquisition call identity does not match its scope")
  else if kind = .splitPage ∧ endpoint ≠ text splitsEndpoint then
    .error (.acquisitionRefused "split call endpoint is not canonical")
  else if kind = .dividendPage ∧ endpoint ≠ text dividendsEndpoint then
    .error (.acquisitionRefused "dividend call endpoint is not canonical")
  else if hClose : kind = .openClose ∧
      (start ≠ stop ∨ endpoint ≠ text (openCloseEndpointIdentity backfillSymbol start)) then
    .error (.acquisitionRefused "open-close call endpoint is not canonical")
  else
    .ok {
      kind, start, stop
      ordered := not_lt.mp fun h => hScope (Or.inr h)
      single := fun hKind => by_contra fun hNe => hClose ⟨hKind, Or.inl hNe⟩ }

def ledgerDocument (call : AcquisitionCall) : Json δ :=
  .obj [
    ("call_id", hash call.callId),
    ("end", isoDate call.stop),
    ("endpoint", text call.endpoint),
    ("format", text "stockapi-vendor-acquisition-call-v1"),
    ("kind", text call.kind.name),
    ("start", isoDate call.start),
    ("symbol", text call.symbol)]

theorem construct_self (call : AcquisitionCall) :
    construct (hash (call.callId : δ)) call.kind (text call.endpoint) (text call.symbol) call.start
      call.stop = .ok call := by
  obtain ⟨kind, start, stop, hOrdered, hSingle⟩ := call
  have hNotAfter : ¬ stop < start := not_lt.mpr hOrdered
  cases kind with
  | splitPage => simp [construct, endpoint, symbol, callId, hNotAfter]
  | dividendPage => simp [construct, endpoint, symbol, callId, hNotAfter]
  | openClose =>
    have hEq : start = stop := hSingle rfl
    subst hEq
    simp [construct, endpoint, symbol, callId]

theorem construct_eq_ok {callId : Json δ} {kind : CallKind} {endpoint symbol : Json δ}
    {start stop : Date} {call : AcquisitionCall}
    (h : construct callId kind endpoint symbol start stop = .ok call) :
    call.kind = kind ∧ call.start = start ∧ call.stop = stop := by
  unfold construct at h
  split_ifs at h
  cases h
  exact ⟨rfl, rfl, rfl⟩

omit [DecidableEq δ] in
/-- Two calls with one identity are the same call. -/
theorem callId_injective (free : CollisionFree δ) :
    Function.Injective (callId : AcquisitionCall → δ) := by
  intro a b h
  have hDocument := free h
  simp only [callDocument, Json.obj.injEq, List.cons.injEq, Prod.mk.injEq, true_and, and_true,
    text_inj] at hDocument
  obtain ⟨hStop, -, hKind, hStart, -⟩ := hDocument
  cases a
  cases b
  simp only [AcquisitionCall.mk.injEq]
  exact ⟨CallKind.name_injective hKind, isoDate_injective hStart, isoDate_injective hStop⟩

end AcquisitionCall

/-- `_make_call`. -/
def makeCall (kind : CallKind) (endpoint : String) (start stop : Date) :
    Except Raised AcquisitionCall :=
  AcquisitionCall.construct (δ := δ)
    (hash (contentId (callDocument kind (text endpoint) (text backfillSymbol) start stop)))
    kind (text endpoint) (text backfillSymbol) start stop

def callSchema : List String := ["call_id", "end", "endpoint", "format", "kind", "start", "symbol"]

/-- `_call_from_document`. Every failure of the construction is reported in the same words. -/
def callFromDocument (value : Json δ) : Except Raised AcquisitionCall :=
  if ¬ value.HasKeys callSchema then .error (.valueError "typed call schema mismatch")
  else if value.field "format" ≠ text "stockapi-vendor-acquisition-call-v1" then
    .error (.valueError "typed call format is unsupported")
  else
    let call := do
      let kind ← CallKind.ofName (value.field "kind")
      let start ← isoDate? (value.field "start")
      let stop ← isoDate? (value.field "end")
      (AcquisitionCall.construct (value.field "call_id") kind (value.field "endpoint")
        (value.field "symbol") start stop).toOption
    match call with
    | some call => .ok call
    | none => .error (.valueError "typed call is invalid")

@[simp] theorem callFromDocument_ledgerDocument (call : AcquisitionCall) :
    callFromDocument (call.ledgerDocument : Json δ) = .ok call := by
  have hKeys : (call.ledgerDocument : Json δ).HasKeys callSchema := by
    simp [Json.HasKeys, Json.isObject, Json.keys, callSchema, AcquisitionCall.ledgerDocument]
  have hRead : ∀ key, (call.ledgerDocument : Json δ).field key =
      (List.lookup key [
        ("call_id", hash call.callId),
        ("end", isoDate call.stop),
        ("endpoint", text call.endpoint),
        ("format", text "stockapi-vendor-acquisition-call-v1"),
        ("kind", text call.kind.name),
        ("start", isoDate call.start),
        ("symbol", text call.symbol)]).getD .null := fun _ => rfl
  simp [callFromDocument, hKeys, hRead, List.lookup_cons, AcquisitionCall.construct_self, Except.toOption]

/-- `_validate_call_order`. -/
def validateCallOrder (calls : List AcquisitionCall) : Except Raised Unit := do
  refuseIf (¬ (calls.map (·.kind.rank)).Pairwise (· ≤ ·))
    (Raised.acquisitionRefused "acquisition calls are not action-first")
  refuseIf (1 < calls.countP (·.kind = .splitPage))
    (Raised.acquisitionRefused "acquisition plan contains multiple split pages")
  refuseIf (1 < calls.countP (·.kind = .dividendPage))
    (Raised.acquisitionRefused "acquisition plan contains multiple dividend pages")
  let priceDates := (calls.filter (·.kind = .openClose)).map (·.start)
  refuseIf (priceDates ≠ Dict.sortedSet priceDates)
    (Raised.acquisitionRefused "open-close calls are not unique and ordered")

end StockApi.Acquisition
