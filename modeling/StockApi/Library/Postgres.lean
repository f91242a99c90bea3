import Mathlib.Algebra.Order.Ring.Rat
import StockApi.Library.Jsonb
import StockApi.Library.Relational
import StockApi.Library.Timestamp
import StockApi.Library.Uuid

/-!
# The functions of the server

Input and output functions of the types that the migrations cast to, and the digest of `pgcrypto`.
A cast to `timestamptz` depends on the session: on its settings and on the start of its
transaction. A `timestamptz` is a number of microseconds since year one, a `date` a calendar date.
-/

namespace StockApi

open Checked CivilTime JsonText Relational

structure Postgres where
  Session : Type
  timestamptz : Session → String → Option Int
  integer : String → Option Int
  numeric : String → Option Rat
  uuid : String → Option Uuid
  uuidText : Uuid → String
  /-- `'sha256:' || encode(digest(bytes, 'sha256'), 'hex')`. -/
  sha256 : Bytes → String
  /-- `encode(float8send(value), 'hex')`. -/
  float8hex : Rat → String

namespace Postgres

variable (pg : Postgres)

/-- What the manual promises of a few of these functions. -/
structure Documented : Prop where
  timestamptz : ∀ session text stamp, Stamp.read text.toList = some stamp →
    pg.timestamptz session text = stamp.postgres
  integer : ∀ n : Nat, n < 2147483648 → pg.integer (String.ofList (natural n)) = some (n : Int)
  sha256 : ∀ bytes, Text.IsHash (pg.sha256 bytes)

variable {pg} in
theorem Documented.timestamp (documented : pg.Documented) (session : pg.Session) (t : Instant) :
    pg.timestamptz session t.timestamp = some (t.micros : Int) := by
  rw [documented.timestamptz session t.timestamp (Stamp.ofInstant t)
    (by rw [Instant.timestamp, String.toList_ofList, Stamp.read_timestampChars]),
    Stamp.postgres_ofInstant]

/-- A server that reads canonical timestamps, plain numbers and the nil identifier. -/
def minimal (sha256 : Bytes → String) : Postgres where
  Session := Unit
  timestamptz _ text := (Stamp.read text.toList).bind Stamp.postgres
  integer text := ((Digits.read text.toList).filter fun n => n < 2147483648).map fun (n : Nat) => (n : Int)
  numeric text := (Digits.read text.toList).map fun (n : Nat) => (n : Rat)
  uuid text := if text = "00000000-0000-0000-0000-000000000000" then some 0 else none
  uuidText _ := "00000000-0000-0000-0000-000000000000"
  sha256
  float8hex _ := "0000000000000000"

theorem documented_minimal {sha256 : Bytes → String} (h : ∀ bytes, Text.IsHash (sha256 bytes)) :
    (minimal sha256).Documented where
  timestamptz := by
    intro session text stamp hRead
    show (Stamp.read text.toList).bind Stamp.postgres = stamp.postgres
    rw [hRead, Option.bind_some]
  integer := by
    intro n hBound
    show ((Digits.read (String.ofList (natural n)).toList).filter _).map _ = some (n : Int)
    rw [String.toList_ofList, read_natural, Option.filter_some, if_pos (by simpa using hBound),
      Option.map_some]
  sha256 := h

def smallint (text : String) : Option Int :=
  (pg.integer text).filter fun n => decide (-32768 ≤ n ∧ n ≤ 32767)

/-- `timezone('UTC', t)::date` as a number of days. -/
def utcDay (t : Int) : Int := t / dayMicros

def notNullViolation : SqlError := ⟨"23502", "null value violates not-null constraint"⟩

def castError : SqlError := ⟨"22P02", "invalid input syntax"⟩

/-- The cast of a text that may be `NULL`. -/
def castText {α : Type} (cast : String → Option α) (failure : SqlError) :
    Option String → Except SqlError (Option α)
  | none => .ok none
  | some text => (orRefuse (cast text) failure).map some

def notNull {α : Type} (value : Option α) : Except SqlError α := orRefuse value notNullViolation

end Postgres

end StockApi
