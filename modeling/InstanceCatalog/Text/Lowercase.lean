import InstanceCatalog.Text.Classes

namespace InstanceCatalog.Text

def shiftByRuns (n : Nat) : List CaseRun → Nat
  | [] => n
  | run :: runs =>
    if run.first ≤ n && n ≤ run.last && (n - run.first) % run.step == 0
    then (n + run.shift).toNat
    else shiftByRuns n runs

def lowerChar (c : Char) : Text :=
  if c.toNat < 128 then [c.toLower]
  else if c = 'İ' then ['i', '\u0307']
  else [Char.ofNat (shiftByRuns c.toNat lowercaseRuns)]

def startsCased (s : Text) : Bool :=
  match s.dropWhile isCaseIgnorable with
  | [] => false
  | c :: _ => isCased c

/-- Lowercases a text whose preceding characters, last first, are `before`. -/
def lowercaseAfter (before : Text) : Text → Text
  | [] => []
  | c :: rest =>
    let form :=
      if c = 'Σ' then (if startsCased before && !startsCased rest then ['ς'] else ['σ'])
      else lowerChar c
    form ++ lowercaseAfter (c :: before) rest

def lowercase (s : Text) : Text := lowercaseAfter [] s

end InstanceCatalog.Text
