/-
  The comparison of a profile with the functions of its test file.
-/
import ProfileSync.Declared
import ProfileSync.Profile.Cursor

namespace ProfileSync

/-- Compare the names `actual` with the functions `expected` from `position`
    on: a function that is declared nowhere is reported before one that stands
    at another place. -/
def comparePlaces (d : Declared) (position : Nat) :
    List String → List ExpectedFunction → Except Mismatch Unit
  | actual :: actuals, f :: fs =>
    if !d.contains f.name then .error (.missing f.name position)
    else if actual ≠ f.name then
      .error (.misplaced actual f.name position (d.lineOf actual))
    else comparePlaces d (position + 1) actuals fs
  | _, _ => .ok ()

/-- Check that exactly the expected functions are declared, in their order;
    the counts are compared first, and the first difference is reported. -/
def checkCases (d : Declared) (expected : List ExpectedFunction) : Except Mismatch Unit :=
  if d.size ≠ expected.length then .error (.count d.size expected.length)
  else comparePlaces d 1 d.names expected

/-- Check a profile against the functions of its test file. -/
def validate (p : Profile) (d : Declared) : Except Mismatch Unit :=
  match p.expectedFunctions with
  | .error e => .error e
  | .ok expected => checkCases d expected

end ProfileSync
