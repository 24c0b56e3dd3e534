import RowMap.Text.CaseTable

/-!
# Upper and lower case

Full case mapping. `lower` maps a text as a whole, because a capital sigma becomes a final sigma at
the end of a word; `upperChar` maps a single character, which may become several.
-/

namespace RowMap.Text

def inRanges (ranges : List (Nat × Nat)) (c : Char) : Bool :=
  ranges.any fun r => r.1 ≤ c.toNat && c.toNat ≤ r.2

/-- The character that a run maps `c` to, if `c` belongs to the run. -/
def CaseRun.image? (run : CaseRun) (c : Char) : Option Char :=
  if run.first ≤ c.toNat ∧ c.toNat ≤ run.last ∧ (c.toNat - run.first) % run.step = 0 then
    some (Char.ofNat (run.image + (c.toNat - run.first)))
  else none

def isCased (c : Char) : Bool :=
  inRanges casedRanges c

def isCaseIgnorable (c : Char) : Bool :=
  inRanges caseIgnorableRanges c

/-- The lower-case form of a character outside of context. -/
def lowerChar (c : Char) : List Char :=
  if c.toNat < 128 then [c.toLower]
  else if c.toNat = 0x130 then ['i', Char.ofNat 0x307]
  else [(lowerRuns.findSome? (·.image? c)).getD c]

/-- The upper-case form of a character. -/
def upperChar (c : Char) : List Char :=
  if c.toNat < 128 then [c.toUpper]
  else match upperExpansions.find? (·.1 = c.toNat) with
    | some expansion => expansion.2.map Char.ofNat
    | none => [(upperRuns.findSome? (·.image? c)).getD c]

/-- Whether a letter follows once the ignorable characters are passed over. -/
def meetsLetter (cs : List Char) : Bool :=
  match cs.dropWhile isCaseIgnorable with
  | [] => false
  | c :: _ => isCased c

/-- Lower case of the text `rest` that stands after the characters `before`, the nearest of them
first. A capital sigma that ends a word takes its final form. -/
def lowerAfter (before : List Char) : List Char → List Char
  | [] => []
  | c :: rest =>
    let form :=
      if c = 'Σ' then
        [if meetsLetter before && !meetsLetter rest then 'ς' else 'σ']
      else lowerChar c
    form ++ lowerAfter (c :: before) rest

/-- The text in lower case. -/
def lower (cs : List Char) : List Char :=
  lowerAfter [] cs

end RowMap.Text
