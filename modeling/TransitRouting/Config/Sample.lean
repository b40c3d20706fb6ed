import TransitRouting.Text.Unicode

/-!
# Sample rates in file names

Input files of a down-sampled scenario carry their sample rate in their name, as a token of
decimal digits followed by `pct` (`berlin-10pct.plans.json`). A configuration names the sample
rate it wants, and every such token of its input paths is replaced by that rate.

A sample rate is one or more decimal digits, optionally followed by a point and one or more
digits. Digits are those of any script (the characters of general category Nd), so `٢٥` and
`２５` are rates, while `²` is not.

Tokens are found from the left: a run of digits counts when `pct` follows it directly, and
then the whole run and the `pct` are replaced; the search goes on after the token. The
replacement is the rate as written, followed by `pct`, with no character treated specially.

Paths taken from URLs keep only their last segment, the text after the last `/`.

## What this module delivers

- `Sample.isRate`: the syntax of a sample rate.
- `Sample.replaceTokens`, `Sample.adjust name sample`: the token replacement.
- `Sample.fileName`: the last segment of a path or URL.
-/

set_option autoImplicit false

namespace TransitRouting.Sample

open Unicode

/-- Whether the characters are one or more digits, optionally followed by a point and one or
more digits. -/
def isRateChars (cs : List Char) : Bool :=
  match cs.span isDecimalDigit with
  | ([], _) => false
  | (_, []) => true
  | (_, '.' :: fraction) => !fraction.isEmpty && fraction.all isDecimalDigit
  | _ => false

/-- Whether a text is a sample rate. -/
def isRate (s : String) : Bool := isRateChars s.toList

/-- Replace the tokens of a name. `run` holds the digits read since the last other character,
latest first; a `pct` right after a nonempty run turns the run and the `pct` into
`replacement`. -/
def replaceTokens (replacement : List Char) (run : List Char) : List Char → List Char
  | [] => run.reverse
  | 'p' :: 'c' :: 't' :: rest =>
    if run.isEmpty then 'p' :: replaceTokens replacement [] ('c' :: 't' :: rest)
    else replacement ++ replaceTokens replacement [] rest
  | c :: rest =>
    if isDecimalDigit c then replaceTokens replacement (c :: run) rest
    else run.reverse ++ c :: replaceTokens replacement [] rest

/-- A name with every sample token replaced by `sample` followed by `pct`. -/
def adjust (name sample : String) : String :=
  String.ofList (replaceTokens (sample.toList ++ ['p', 'c', 't']) [] name.toList)

/-- The last segment of a path or URL: everything after its last `/`, or all of it. -/
def fileName (url : String) : String :=
  String.ofList (url.toList.reverse.takeWhile (· ≠ '/')).reverse

end TransitRouting.Sample
