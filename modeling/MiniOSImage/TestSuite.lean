import Mathlib.Data.List.Basic
/-!
# `test_phase5.py` — the record of outcomes, and the suite's exit status

The suite hands one `TestResult` to each test function in turn, and each
records its checks with `add_test`: the outcome goes to the end of `tests`,
and one of two counters, `passed` or `failed`, goes up. A test function that
raises ends `main` with 1; otherwise `print_summary` runs (it divides by the
number of checks, so it raises when there is none) and `main` returns
`1 if result.failed > 0 else 0`, which `sys.exit` makes the status.

Nothing in the class ties the counters to the list; `Counted` is that tie,
kept by every `add_test` (`Counted.addTest`) and so by every run of them
(`Counted.record`). From it, `main_status_zero_iff`: for every behaviour of
the test functions, the suite exits 0 exactly when none of them raised, some
check was recorded, and every recorded check succeeded.

The test functions themselves start compilers and `make` and read sources of
the kernel; what the model keeps of each is what `main` sees of it, the
checks it recorded and whether it raised (`TestCall`).
-/

namespace MiniOSImage

namespace TestPhase5

/-- An entry of `TestResult.tests`, the dict `add_test` appends. -/
structure TestEntry where
  name : String
  success : Bool
  message : String
  deriving Repr, DecidableEq

/-- `class TestResult`. -/
structure TestResult where
  passed : ℕ
  failed : ℕ
  tests : List TestEntry
  deriving Repr, DecidableEq

namespace TestResult

/-- `TestResult.__init__`. -/
def init : TestResult := ⟨0, 0, []⟩

/-- `TestResult.add_test` (the source's default message is the empty
string): append the entry, then count it. -/
def addTest (r : TestResult) (name : String) (success : Bool) (message : String) :
    TestResult :=
  let e : TestEntry := ⟨name, success, message⟩
  let r := { r with tests := r.tests ++ [e] }
  if success then { r with passed := r.passed + 1 } else { r with failed := r.failed + 1 }

/-- `add_test` applied to each entry of a list, in order. -/
def record (r : TestResult) : List TestEntry → TestResult
  | [] => r
  | e :: es => (r.addTest e.name e.success e.message).record es

/-- The last line of `main`, `return 1 if result.failed > 0 else 0`. -/
def status (r : TestResult) : ℕ := if r.failed > 0 then 1 else 0

variable {r : TestResult}

@[simp] theorem tests_addTest (n : String) (s : Bool) (m : String) :
    (r.addTest n s m).tests = r.tests ++ [⟨n, s, m⟩] := by
  cases s <;> rfl

@[simp] theorem tests_record (es : List TestEntry) : (r.record es).tests = r.tests ++ es := by
  induction es generalizing r with
  | nil => simp [record]
  | cons e es ih => simp [record, ih]

/-- **The counters count the list**: `passed` and `failed` are the numbers of
successful and failed entries of `tests`. -/
def Counted (r : TestResult) : Prop :=
  r.passed = r.tests.countP (·.success) ∧ r.failed = r.tests.countP (fun e => !e.success)

theorem Counted.init : Counted init := ⟨rfl, rfl⟩

theorem Counted.addTest (h : Counted r) (n : String) (s : Bool) (m : String) :
    Counted (r.addTest n s m) := by
  cases s <;> simp [TestResult.addTest, Counted, List.countP_append, h.1, h.2]

theorem Counted.record (h : Counted r) (es : List TestEntry) : Counted (r.record es) := by
  induction es generalizing r with
  | nil => exact h
  | cons e es ih => exact ih (h.addTest e.name e.success e.message)

/-- What `print_summary` prints as the total is the number of entries. -/
theorem Counted.total (h : Counted r) : r.passed + r.failed = r.tests.length := by
  rw [h.1, h.2, List.length_eq_countP_add_countP (·.success)]
  simp

theorem Counted.status_eq_zero_iff (h : Counted r) :
    r.status = 0 ↔ ∀ e ∈ r.tests, e.success = true := by
  simp [status, h.2, List.countP_eq_zero]

end TestResult

/-- What `main` sees of one test function: the checks it recorded, in order,
and whether it then raised (an `Exception` or a `KeyboardInterrupt`). -/
structure TestCall where
  checks : List TestEntry
  raised : Bool
  deriving Repr, DecidableEq

open TestResult

/-- The body of `main` from the `try` on: the test functions run in order on
one result; the first that raises makes `main` return 1; after the last,
`print_summary` raises `ZeroDivisionError` when no check was counted, which
ends the process with status 1, and otherwise `main` returns `status`. -/
def runSuite (r : TestResult) : List TestCall → ℕ
  | [] => if r.passed + r.failed = 0 then 1 else r.status
  | c :: cs => if c.raised then 1 else runSuite (r.record c.checks) cs

/-- `sys.exit(main())` once the arguments are parsed: `calls` are the test
functions `main` calls, in order (`test_build_system_integration` first,
unless `--skip-build`). -/
def main (calls : List TestCall) : ℕ := runSuite init calls

theorem runSuite_eq_zero_iff (h : Counted r) (cs : List TestCall) :
    runSuite r cs = 0 ↔ (∀ c ∈ cs, c.raised = false) ∧
      r.tests ++ cs.flatMap TestCall.checks ≠ [] ∧
      ∀ e ∈ r.tests ++ cs.flatMap TestCall.checks, e.success = true := by
  induction cs generalizing r with
  | nil =>
    simp only [runSuite, h.total, List.length_eq_zero, List.flatMap_nil, List.append_nil]
    by_cases ht : r.tests = [] <;> simp [ht, h.status_eq_zero_iff]
  | cons c cs ih =>
    cases hc : c.raised
    · simp [runSuite, hc, ih (h.record c.checks), List.append_assoc]
    · simp [runSuite, hc]

theorem main_status_zero_iff (calls : List TestCall) :
    main calls = 0 ↔ (∀ c ∈ calls, c.raised = false) ∧
      calls.flatMap TestCall.checks ≠ [] ∧
      ∀ e ∈ calls.flatMap TestCall.checks, e.success = true := by
  simpa [main, init] using runSuite_eq_zero_iff Counted.init calls

end TestPhase5

end MiniOSImage
