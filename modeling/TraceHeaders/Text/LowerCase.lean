import TraceHeaders.Text.Ascii
import TraceHeaders.Text.LowerCase.Table

/-!
Lowercase for all scripts.  Every letter is mapped on its own, with two exceptions: the capital I
with a dot becomes two characters, and a capital sigma becomes a final sigma at the end of a word.
-/

namespace TraceHeaders.Text

/-- The lowercase of a character in a run. -/
def CaseRun.lower? (run : CaseRun) (c : Char) : Option Char :=
  if run.first ≤ c.toNat && c.toNat ≤ run.last && (c.toNat - run.first) % run.step == 0 then
    some (Char.ofNat (run.target + (c.toNat - run.first)))
  else none

/-- The lowercase of a character wherever it stands. -/
def lowerChar (c : Char) : List Char :=
  if isAscii c then [c.toLower]
  else if c.toNat = 0x130 then ['i', Char.ofNat 0x307]
  else [(caseRuns.findSome? (·.lower? c)).getD c]

/-- Whether the next character that matters is a letter with case. -/
def continuesWord (cs : List Char) : Bool :=
  match cs.dropWhile caseIgnorableChars.contains with
  | [] => false
  | c :: _ => casedChars.contains c

/-- The lowercase forms of the characters after `before`, which stands in reverse order. -/
def lowerAfter (before : List Char) : List Char → List Char
  | [] => []
  | c :: cs =>
      let lowered :=
        if c = 'Σ' then
          if continuesWord before && !continuesWord cs then ['ς'] else ['σ']
        else lowerChar c
      lowered ++ lowerAfter (c :: before) cs

def lower (s : String) : String := String.ofList (lowerAfter [] s.toList)

end TraceHeaders.Text
