/-!
# Scanners

A scanner takes a text one character at a time and gives the tokens that each character
completes. Two texts are scanned one behind the other as they are scanned alone, as long as
the second begins with a character that no token takes in.
-/

set_option autoImplicit false

namespace QueryBlocks

structure Scanner (Token Place : Type) where
  start : Place
  step : Place → Char → Option (List Token × Place)
  finish : Place → Option (List Token)
  apart : Char → Bool

namespace Scanner

variable {Token Place : Type} (s : Scanner Token Place)

def scan : Place → List Char → Option (List Token)
  | place, [] => s.finish place
  | place, c :: rest =>
    (s.step place c).bind fun found => (scan found.2 rest).map (found.1 ++ ·)

def tokens (text : String) : Option (List Token) := s.scan s.start text.toList

theorem scan_cons (place next : Place) (c : Char) (rest : List Char) (found : List Token)
    (h : s.step place c = some (found, next)) :
    s.scan place (c :: rest) = (s.scan next rest).map (found ++ ·) := by
  rw [scan, h, Option.bind_some]

theorem scan_within (place next : Place) (c : Char) (rest : List Char)
    (h : s.step place c = some ([], next)) : s.scan place (c :: rest) = s.scan next rest := by
  rw [s.scan_cons place next c rest [] h]
  exact Option.map_id_apply

def Delimited (rest : List Char) : Prop := ∀ c ∈ rest.head?, s.apart c = true

/-- Characters that only make the token longer. -/
theorem scan_collect (place : List Char → Place) (text more rest : List Char)
    (h : ∀ text, ∀ c ∈ more, s.step (place text) c = some ([], place (text ++ [c]))) :
    s.scan (place text) (more ++ rest) = s.scan (place (text ++ more)) rest := by
  induction more generalizing text with
  | nil => rw [List.nil_append, List.append_nil]
  | cons c more ih =>
    rw [List.cons_append, s.scan_within _ _ c _ (h text c (by simp)),
      ih (text ++ [c]) (fun text d hd => h text d (by simp [hd])), List.append_assoc,
      List.singleton_append]

/-- Characters that are written in another way and read back one by one. -/
theorem scan_encoded (place : List Char → Place) (encode : Char → List Char)
    (text more rest : List Char)
    (h : ∀ text c rest,
      s.scan (place text) (encode c ++ rest) = s.scan (place (text ++ [c])) rest) :
    s.scan (place text) (more.flatMap encode ++ rest) = s.scan (place (text ++ more)) rest := by
  induction more generalizing text with
  | nil => rw [List.flatMap_nil, List.nil_append, List.append_nil]
  | cons c more ih =>
    rw [List.flatMap_cons, List.append_assoc, h, ih, List.append_assoc, List.singleton_append]

/-- A token that the next character or the end completes. -/
theorem scan_release (place : Place) (token : Token) (rest : List Char)
    (hs : ∀ c, s.apart c = true →
      s.step place c = (s.step s.start c).map fun found => (token :: found.1, found.2))
    (hf : s.finish place = (s.finish s.start).map (token :: ·)) (hr : s.Delimited rest) :
    s.scan place rest = (s.scan s.start rest).map (token :: ·) := by
  cases rest with
  | nil => exact hf
  | cons c rest =>
    rw [scan, scan, hs c (hr c rfl)]
    cases s.step s.start c with
    | none => rfl
    | some found =>
      rw [Option.map_some, Option.bind_some, Option.bind_some, Option.map_map]
      rfl

def Scans (text : List Char) (found : List Token) : Prop :=
  ∀ rest, s.Delimited rest → s.scan s.start (text ++ rest) = (s.scan s.start rest).map (found ++ ·)

/-- A run of characters that a delimiter or the end completes is one token. -/
theorem scans_run (place : List Char → Place) (token : Token) (first : Char) (more : List Char)
    (hfirst : s.step s.start first = some ([], place [first]))
    (hmore : ∀ text, ∀ c ∈ more, s.step (place text) c = some ([], place (text ++ [c])))
    (hend : ∀ c, s.apart c = true → s.step (place (first :: more)) c =
      (s.step s.start c).map fun found => (token :: found.1, found.2))
    (hfinish : s.finish (place (first :: more)) = (s.finish s.start).map (token :: ·)) :
    s.Scans (first :: more) [token] := by
  intro rest hr
  rw [List.cons_append, s.scan_within _ _ first _ hfirst,
    s.scan_collect place [first] more rest hmore, List.singleton_append,
    s.scan_release _ _ rest hend hfinish hr]
  rfl

/-- A text that keeps a token before it apart. -/
def Opens (text : List Char) : Prop := ∃ c more, text = c :: more ∧ s.apart c = true

theorem opens_cons (c : Char) (more : List Char) (h : s.apart c = true) : s.Opens (c :: more) :=
  ⟨c, more, rfl, h⟩

theorem scans_nil : s.Scans [] [] := by
  intro rest _
  exact Option.map_id_apply.symm

theorem map_append (found more : List Token) (rest : Option (List Token)) :
    (rest.map (more ++ ·)).map (found ++ ·) = rest.map ((found ++ more) ++ ·) := by
  rw [Option.map_map]
  exact congrArg rest.map (funext fun _ => (List.append_assoc ..).symm)

theorem scans_append (first second : List Char) (found more : List Token)
    (hf : s.Scans first found) (hm : s.Scans second more) (ho : s.Opens second) :
    s.Scans (first ++ second) (found ++ more) := by
  intro rest hr
  have hd : s.Delimited (second ++ rest) := by
    obtain ⟨c, others, rfl, hc⟩ := ho
    intro d hd
    cases hd
    exact hc
  rw [List.append_assoc, hf _ hd, hm rest hr, map_append]

/-- A character that is a token, or no part of any, may be followed by anything. -/
theorem scans_cons (c : Char) (found : List Token) (text : List Char) (more : List Token)
    (hc : s.step s.start c = some (found, s.start)) (hm : s.Scans text more) :
    s.Scans (c :: text) (found ++ more) := by
  intro rest hr
  rw [List.cons_append, s.scan_cons _ _ c _ found hc, hm rest hr, map_append]

/-- A text without tokens. -/
theorem scans_skip (c : Char) (text : List Char) (more : List Token)
    (hc : s.step s.start c = some ([], s.start)) (hm : s.Scans text more) :
    s.Scans (c :: text) more := s.scans_cons c [] text more hc hm

theorem scan_of_scans (text : List Char) (found : List Token) (h : s.Scans text found)
    (hf : s.finish s.start = some []) : s.scan s.start text = some found := by
  have hs := h [] (by simp [Delimited])
  rw [List.append_nil] at hs
  rw [hs, scan, hf, Option.map_some, List.append_nil]

end Scanner

end QueryBlocks
