import FilePlacement.Cluster.Stream
import FilePlacement.Proofs.Numerals
import FilePlacement.Proofs.Texts
import Mathlib.Data.List.TakeWhile

/-!
# The script of an upload, word by word

A quoted text is one word that stands for the text and nothing else, whatever is in it (`tokens_quote`):
the reading of a shell goes in and out of single quotes with every quote of the text, and comes out with
the word that it went in with and the text behind it (`scan_quote`). So whatever a datastore's path, a
directory and a file are called, the script that a node runs for an upload has just the words and
operators that it is meant to have (`tokens_script`).
-/

namespace FilePlacement

namespace Shell

/-- A word of characters that stand for themselves, all of them between quotes or none. -/
def wordOf (quoted : Bool) (s : List Char) : Word := s.map fun c => .char c quoted

theorem wordOf_cons (quoted : Bool) (c : Char) (s : List Char) :
    wordOf quoted (c :: s) = .char c quoted :: wordOf quoted s := rfl

theorem literal?_wordOf (quoted : Bool) (s : List Char) : literal? (wordOf quoted s) = some s := by
  induction s with
  | nil => rfl
  | cons c s ih => simp [wordOf_cons, literal?, ih]

theorem add_some (w : Word) (p : Piece) : add (some w) p = some (w ++ [p]) := rfl

theorem finish_some (w : Word) : finish (some w) = (.word w :: ·) := rfl

theorem finish_none : finish none = id := rfl

/-! ## Quoted texts -/

/-- What `quote` writes between its outer quotes. -/
def escaped (s : List Char) : List Char := s.flatMap fun c => if c = '\'' then ['\'', '\\', '\'', '\''] else [c]

theorem quote_eq (s : List Char) : quote s = '\'' :: escaped s ++ ['\''] := rfl

theorem escaped_quote (s : List Char) : escaped ('\'' :: s) = '\'' :: '\\' :: '\'' :: '\'' :: escaped s := rfl

theorem escaped_cons {c : Char} (hc : c ≠ '\'') (s : List Char) : escaped (c :: s) = c :: escaped s := by
  simp [escaped, hc]

/-- Between quotes, the reading adds the text to the word and leaves the quotes behind it. -/
theorem scan_escaped (s : List Char) (w : Word) (rest : List Char) :
    scan .single (some w) (escaped s ++ '\'' :: rest) = scan .none (some (w ++ wordOf true s)) rest := by
  induction s generalizing w with
  | nil => simp [escaped, scan, wordOf]
  | cons c s ih =>
    by_cases hc : c = '\''
    · -- Out of the quotes, the escaped quote, and in again.
      subst hc
      rw [escaped_quote]
      simp [scan, add_some, ih, wordOf_cons]
    · rw [escaped_cons hc]
      simp [scan, hc, add_some, ih, wordOf_cons]

theorem scan_quote (s : List Char) (w : Option Word) (rest : List Char) :
    scan .none w (quote s ++ rest) = scan .none (some (w.getD [] ++ wordOf true s)) rest := by
  have hquote : quote s ++ rest = '\'' :: (escaped s ++ '\'' :: rest) := by simp [quote_eq]
  rw [hquote, ← scan_escaped]
  simp [scan]

/-- A quoted text is one word. -/
theorem tokens_quote (s : List Char) : tokens (quote s) = some [.word (wordOf true s)] := by
  have hscan := scan_quote s none []
  rw [List.append_nil] at hscan
  unfold tokens
  rw [hscan]
  simp [scan, finish]

example : tokens "'a'\\''; b'".toList = some [.word (wordOf true "a'; b".toList)] := by decide +kernel

/-! ## Words without quotes -/

/-- The characters that may mean more to a shell than themselves. -/
def specials : List Char :=
  ['\\', '\'', '"', '$', '\x60', '(', ')', '&', '|', '>', '<', ';', '#', ' ', '\t', '\n']

theorem not_mem_specials {s : List Char} (hs : (s.all fun c => !specials.contains c) = true) :
    ∀ c ∈ s, c ∉ specials := by
  simpa using hs

theorem scan_plain {c : Char} (hc : c ∉ specials) (w : Option Word) (rest : List Char) :
    scan .none w (c :: rest) = scan .none (add w (.char c false)) rest := by
  simp only [specials, List.mem_cons, List.not_mem_nil, or_false, not_or] at hc
  rw [scan] <;> simp_all

theorem scan_blank (rest : List Char) : scan .none none (' ' :: rest) = scan .none none rest := by
  simp [scan, finish_none]

/-- A blank ends a word. -/
theorem scan_some_blank (w : Word) (rest : List Char) :
    scan .none (some w) (' ' :: rest) = (scan .none none rest).map (.word w :: ·) := by
  simp [scan, finish_some]

/-- Characters that mean nothing more make a word of their own, up to a blank behind them. -/
theorem scan_word {s : List Char} (hs : ∀ c ∈ s, c ∉ specials) (hne : s ≠ []) (rest : List Char) :
    scan .none none (s ++ ' ' :: rest) = (scan .none none rest).map (.word (wordOf false s) :: ·) := by
  have hall : ∀ w : Word, scan .none (some w) (s ++ ' ' :: rest) =
      (scan .none none rest).map (.word (w ++ wordOf false s) :: ·) := by
    clear hne
    induction s with
    | nil =>
      intro w
      rw [List.nil_append, scan_some_blank]
      simp [wordOf]
    | cons c s ih =>
      intro w
      rw [List.cons_append, scan_plain (hs c List.mem_cons_self), add_some,
        ih fun d hd => hs d (List.mem_cons_of_mem c hd)]
      simp [wordOf_cons]
  cases s with
  | nil => exact absurd rfl hne
  | cons c s =>
    have hall := hall []
    rw [List.cons_append, scan_plain (hs c List.mem_cons_self)] at hall ⊢
    exact hall

/-- A quoted text in front of a blank is a word. -/
theorem scan_quote_blank (s rest : List Char) :
    scan .none none (quote s ++ ' ' :: rest) = (scan .none none rest).map (.word (wordOf true s) :: ·) := by
  rw [scan_quote, scan_some_blank]
  rfl

theorem scan_andThen (rest : List Char) :
    scan .none none ('&' :: '&' :: rest) = (scan .none none rest).map (.operator .andThen :: ·) := by
  simp [scan, finish]

theorem scan_output (rest : List Char) :
    scan .none none ('>' :: ' ' :: rest) = (scan .none none rest).map (.operator (.output 1) :: ·) := by
  rw [scan] <;> simp [redirected, descriptor?, finish, scan_blank]

end Shell

/-! ## Modes -/

namespace FileMode

theorem ofDigits?_format (mode : FileMode) : Text.ofDigits? 8 mode.format.toList = some mode.bits := by
  simp [format, Text.ofDigits?_zeroPadded]

theorem four_le_length_format (mode : FileMode) : 4 ≤ mode.format.toList.length := by
  simp [format, Text.le_length_zeroPadded]

/-- A mode is written in digits, which mean nothing more to a shell. -/
theorem not_mem_specials_of_mem_format {mode : FileMode} {c : Char} (hc : c ∈ mode.format.toList) :
    c ∉ Shell.specials := by
  have hall : mode.format.toList.all (Text.isDigitOf 8) = true := by
    have hread := mode.ofDigits?_format
    unfold Text.ofDigits? at hread
    split at hread
    · cases hread
    · simp_all
  have hdigit := List.all_eq_true.1 hall c hc
  intro hspecial
  have hnone : (Shell.specials.all fun d => !Text.isDigitOf 8 d) = true := by decide
  have hc := List.all_eq_true.1 hnone c hspecial
  rw [hdigit] at hc
  cases hc

end FileMode

/-! ## Scripts -/

namespace Cluster.StreamConfig

open Shell

/-- The words and operators that make a directory, write to a file, and set its mode if there is one to
set. -/
def uploadTokens (directory file : List Char) (mode : Option (List Char)) : List Token :=
  [.word (wordOf false "mkdir".toList), .word (wordOf false "-p".toList), .word (wordOf true directory),
    .operator .andThen, .word (wordOf false "cat".toList), .operator (.output 1), .word (wordOf true file)] ++
  match mode with
  | some digits =>
    [.operator .andThen, .word (wordOf false "chmod".toList), .word (wordOf false digits), .word (wordOf true file)]
  | none => []

theorem withoutSlashes_append (path : String) :
    ∃ n, path.toList = (withoutSlashes path).toList ++ List.replicate n '/' := by
  obtain ⟨tail, happend, htail⟩ := Text.dropTrailing_append (· = '/') path.toList
  refine ⟨tail.length, ?_⟩
  rw [← List.eq_replicate_of_mem fun c hc => of_decide_eq_true (htail c hc)]
  simpa [withoutSlashes] using happend

theorem getLast?_withoutSlashes (path : String) : (withoutSlashes path).toList.getLast? ≠ some '/' := by
  intro hlast
  rw [withoutSlashes, String.toList_ofList] at hlast
  have hno := Text.getLast?_dropTrailing hlast
  simp at hno

/-- The words of a script up to the file that it writes to, behind which the word of the file has to end. -/
theorem scan_writing (directory file : String) {rest : List Char} {more : List Token}
    (hrest : ∀ w, scan .none (some w) rest = some (.word w :: more)) :
    scan .none none ("mkdir -p ".toList ++ quote directory.toList ++ " && cat > ".toList ++ quote file.toList ++ rest) =
      some ([.word (wordOf false "mkdir".toList), .word (wordOf false "-p".toList), .word (wordOf true directory.toList),
        .operator .andThen, .word (wordOf false "cat".toList), .operator (.output 1), .word (wordOf true file.toList)] ++
        more) := by
  have hmkdir := not_mem_specials (s := "mkdir".toList) (by decide)
  have hp := not_mem_specials (s := "-p".toList) (by decide)
  have hcat := not_mem_specials (s := "cat".toList) (by decide)
  have hcut : "mkdir -p ".toList ++ quote directory.toList ++ " && cat > ".toList ++ quote file.toList ++ rest =
      "mkdir".toList ++ ' ' :: ("-p".toList ++ ' ' :: (quote directory.toList ++ ' ' :: '&' :: '&' :: ' ' ::
        ("cat".toList ++ ' ' :: '>' :: ' ' :: (quote file.toList ++ rest)))) := by
    simp
  rw [hcut, scan_word hmkdir (by decide), scan_word hp (by decide), scan_quote_blank, scan_andThen, scan_blank,
    scan_word hcat (by decide), scan_output, scan_quote, hrest]
  rfl

/-- The words of a script that sets the mode of its file. -/
theorem scan_mode (file : String) (mode : FileMode) (w : Word) :
    scan .none (some w) (" && chmod ".toList ++ mode.format.toList ++ " ".toList ++ quote file.toList) =
      some (.word w :: [.operator .andThen, .word (wordOf false "chmod".toList),
        .word (wordOf false mode.format.toList), .word (wordOf true file.toList)]) := by
  have hchmod := not_mem_specials (s := "chmod".toList) (by decide)
  have hne : mode.format.toList ≠ [] := fun hnil => by
    have hlength := mode.four_le_length_format
    simp [hnil] at hlength
  have hcut : " && chmod ".toList ++ mode.format.toList ++ " ".toList ++ quote file.toList =
      ' ' :: '&' :: '&' :: ' ' :: ("chmod".toList ++ ' ' :: (mode.format.toList ++ ' ' :: quote file.toList)) := by
    simp
  have hfile : scan .none none (quote file.toList) = _ := tokens_quote file.toList
  rw [hcut, scan_some_blank, scan_andThen, scan_blank, scan_word hchmod (by decide),
    scan_word (fun c hc => FileMode.not_mem_specials_of_mem_format hc) hne, hfile]
  rfl

/-- Whatever the path of a datastore, a directory and a file are called, the script of an upload consists of
the words and operators that it is meant to have: the texts are words as they are, the path without the
slashes at its end. A mode is at least four octal digits. -/
theorem tokens_script (path : String) (u : Upload) :
    (∃ n, path.toList = (withoutSlashes path).toList ++ List.replicate n '/') ∧
    (withoutSlashes path).toList.getLast? ≠ some '/' ∧
    tokens (script path u).toList = some (uploadTokens
      ((withoutSlashes path).toList ++ '/' :: u.contentType.toList)
      ((withoutSlashes path).toList ++ '/' :: u.contentType.toList ++ '/' :: u.fileName.toList)
      (u.mode.map fun m => m.format.toList)) ∧
    (∀ m : FileMode, 4 ≤ m.format.toList.length ∧ Text.ofDigits? 8 m.format.toList = some m.bits) ∧
    ∀ s : String, tokens (quoted s).toList = some [.word (wordOf true s.toList)] ∧
      literal? (wordOf true s.toList) = some s.toList := by
  have hdirectory : (withoutSlashes path).toList ++ '/' :: u.contentType.toList = (directoryOf path u).toList := by
    simp [directoryOf]
  have hfile : (directoryOf path u).toList ++ '/' :: u.fileName.toList = (destinationOf path u).toList := by
    simp [destinationOf]
  rw [hdirectory, hfile]
  refine ⟨withoutSlashes_append path, getLast?_withoutSlashes path, ?_, fun m => ?_, fun s => ?_⟩
  · cases hmode : u.mode with
    | none =>
      have hscript : (script path u).toList = "mkdir -p ".toList ++ quote (directoryOf path u).toList ++
          " && cat > ".toList ++ quote (destinationOf path u).toList ++ [] := by
        simp [script, hmode, quoted]
      rw [tokens, hscript]
      exact scan_writing _ _ fun w => by simp [scan, finish_some]
    | some mode =>
      have hscript : (script path u).toList = "mkdir -p ".toList ++ quote (directoryOf path u).toList ++
          " && cat > ".toList ++ quote (destinationOf path u).toList ++
            (" && chmod ".toList ++ mode.format.toList ++ " ".toList ++ quote (destinationOf path u).toList) := by
        simp [script, hmode, quoted]
      rw [tokens, hscript]
      exact scan_writing _ _ (scan_mode (destinationOf path u) mode)
  · exact ⟨m.four_le_length_format, m.ofDigits?_format⟩
  · rw [quoted, String.toList_ofList]
    exact ⟨tokens_quote s.toList, literal?_wordOf true s.toList⟩

end Cluster.StreamConfig

end FilePlacement
