import Mathlib.Data.List.Infix
import Mathlib.Data.List.TakeWhile
import Rulebook.Syntax.Lexer

/-!
How tokens are written. What the lexer takes from the front of a text is a written form of the token
that it gives, and it gives none only where the text starts with no written form at all.
-/

namespace Rulebook.Syntax

-- The characters of a string and how they stand between its quotes.
inductive Encodes : List Char → List Char → Prop
  | nil : Encodes [] []
  | plain {c : Char} {body cs : List Char} (hquote : c ≠ '"') (hescape : c ≠ '\\')
    (h : Encodes body cs) : Encodes (c :: body) (c :: cs)
  | escape {c e : Char} {body cs : List Char} (he : unescape? e = some c) (h : Encodes body cs) :
    Encodes (c :: body) ('\\' :: e :: cs)

inductive Spells : Token → List Char → Prop
  | whitespace {cs : List Char} (hne : cs ≠ []) (h : ∀ c ∈ cs, isInlineSpace c = true) :
    Spells (.whitespace (String.ofList cs)) cs
  | lineFeed : Spells .newline ['\n']
  | carriageReturn : Spells .newline ['\r', '\n']
  | blockComment {cs : List Char} (h : ¬['*', '/'] <:+: cs) :
    Spells (.blockComment (commentContent cs)) ('/' :: '*' :: (cs ++ ['*', '/']))
  | lineComment {cs : List Char} (h : ∀ c ∈ cs, isLineEnd c = false) :
    Spells (.lineComment (commentContent cs)) ('/' :: '/' :: cs)
  | string {body cs : List Char} (h : Encodes body cs) :
    Spells (.string (String.ofList body)) ('"' :: (cs ++ ['"']))
  | whole {digits : List Char} (hne : digits ≠ []) (h : ∀ c ∈ digits, c.isDigit = true) :
    Spells (.number (Number.ofDigits digits [])) digits
  | decimal {whole fraction : List Char} (hwhole : whole ≠ []) (hfraction : fraction ≠ [])
    (h : ∀ c ∈ whole ++ fraction, c.isDigit = true) :
    Spells (.number (Number.ofDigits whole fraction)) (whole ++ '.' :: fraction)
  | operator (o : Operator) : Spells (.operator o) o.text.toList
  | delimiter (d : Delimiter) : Spells (.delimiter d) d.text.toList
  | inputName : Spells (.identifier inputName) ['?']
  | name {c : Char} {cs : List Char} (hstart : startsName c = true)
    (h : ∀ c ∈ cs, continuesName c = true) : Spells (nameToken (String.ofList (c :: cs))) (c :: cs)

-- The characters up to `rest` are a written form of the token.
def Takes (cs : List Char) (t : Token) (rest : List Char) : Prop :=
  ∃ piece, cs = piece ++ rest ∧ Spells t piece

variable {cs rest piece : List Char} {t : Token}

theorem takes_of_scanWhitespace (h : scanWhitespace cs = some (t, rest)) : Takes cs t rest := by
  rw [scanWhitespace] at h
  split at h
  case h_1 => cases h
  case h_2 hne =>
    cases h
    refine ⟨cs.takeWhile isInlineSpace, List.takeWhile_append_dropWhile.symm, .whitespace hne ?_⟩
    exact fun c hc => List.mem_takeWhile_imp hc

theorem takes_of_scanNewline (h : scanNewline cs = some (t, rest)) : Takes cs t rest := by
  rw [scanNewline.eq_def] at h
  split at h <;> cases h
  · exact ⟨_, rfl, .lineFeed⟩
  · exact ⟨['\r', '\n'], rfl, .carriageReturn⟩

theorem eq_of_untilCommentEnd {content : List Char}
    (h : untilCommentEnd cs = some (content, rest)) :
    cs = content ++ '*' :: '/' :: rest ∧ ¬['*', '/'] <:+: content := by
  induction cs using untilCommentEnd.induct generalizing content rest with
  | case1 after =>
    rw [untilCommentEnd] at h
    cases h
    exact ⟨rfl, by simp⟩
  | case2 c cs hne ih =>
    rw [untilCommentEnd] at h
    · obtain ⟨⟨content', after⟩, h', heq⟩ := Option.map_eq_some_iff.1 h
      cases heq
      obtain ⟨rfl, hinfix⟩ := ih h'
      refine ⟨rfl, fun hmem => ?_⟩
      obtain hprefix | hmem := List.infix_cons_iff.1 hmem
      · obtain ⟨hc, hslash⟩ := List.cons_prefix_cons.1 hprefix
        obtain ⟨tail, rfl⟩ := hslash
        exact hne _ hc.symm rfl
      · exact hinfix hmem
    · exact hne
  | case3 => cases h

theorem takes_of_scanComment (h : scanComment cs = some (t, rest)) : Takes cs t rest := by
  rw [scanComment.eq_def] at h
  split at h
  case h_1 body =>
    obtain ⟨⟨content, after⟩, h', heq⟩ := Option.map_eq_some_iff.1 h
    cases heq
    obtain ⟨rfl, hinfix⟩ := eq_of_untilCommentEnd h'
    exact ⟨'/' :: '*' :: (content ++ ['*', '/']), by simp, .blockComment hinfix⟩
  case h_2 body =>
    have hcomment : Takes ('/' :: '/' :: body)
        (.lineComment (commentContent (body.takeWhile (!isLineEnd ·))))
        (body.dropWhile (!isLineEnd ·)) := by
      refine ⟨'/' :: '/' :: body.takeWhile (!isLineEnd ·), ?_, .lineComment fun c hc => ?_⟩
      · rw [List.cons_append, List.cons_append, List.takeWhile_append_dropWhile]
      · simpa using List.mem_takeWhile_imp hc
    simp only at h
    split at h <;> cases h <;> exact hcomment
  case h_3 => cases h

theorem encodes_of_stringBody {body : List Char} (h : stringBody cs = some (body, rest)) :
    ∃ written, cs = written ++ '"' :: rest ∧ Encodes body written := by
  induction cs using stringBody.induct generalizing body rest with
  | case1 => cases h
  | case2 after =>
    rw [stringBody] at h
    cases h
    exact ⟨[], rfl, .nil⟩
  | case3 => cases h
  | case4 e cs ih =>
    rw [stringBody, Option.bind_eq_bind, Option.bind_eq_some_iff] at h
    obtain ⟨c, he, h⟩ := h
    obtain ⟨⟨body', after⟩, h', heq⟩ := Option.bind_eq_some_iff.1 h
    cases heq
    obtain ⟨written, rfl, hencodes⟩ := ih h'
    exact ⟨'\\' :: e :: written, rfl, .escape he hencodes⟩
  | case5 c cs hquote hlast hescape ih =>
    rw [stringBody] at h
    · obtain ⟨⟨body', after⟩, h', heq⟩ := Option.map_eq_some_iff.1 h
      cases heq
      obtain ⟨written, rfl, hencodes⟩ := ih h'
      refine ⟨c :: written, rfl, .plain hquote (fun hc => ?_) hencodes⟩
      cases written with
      | nil => exact hescape _ _ hc rfl
      | cons e written => exact hescape _ _ hc rfl
    all_goals assumption

theorem takes_of_scanString (h : scanString cs = some (t, rest)) : Takes cs t rest := by
  rw [scanString.eq_def] at h
  split at h
  case h_1 =>
    obtain ⟨⟨body, after⟩, h', heq⟩ := Option.map_eq_some_iff.1 h
    cases heq
    obtain ⟨written, rfl, hencodes⟩ := encodes_of_stringBody h'
    exact ⟨'"' :: (written ++ ['"']), by simp, .string hencodes⟩
  case h_2 => cases h

theorem takes_of_scanNumber (h : scanNumber cs = some (t, rest)) : Takes cs t rest := by
  simp only [scanNumber] at h
  split at h
  case isTrue => cases h
  case isFalse hne =>
    have hwhole : cs.takeWhile Char.isDigit ≠ [] := by simpa using hne
    have hdigits : ∀ c ∈ cs.takeWhile Char.isDigit, c.isDigit = true :=
      fun c hc => List.mem_takeWhile_imp hc
    have hcs : cs.takeWhile Char.isDigit ++ cs.dropWhile Char.isDigit = cs :=
      List.takeWhile_append_dropWhile
    have hinteger : Takes cs (.number (Number.ofDigits (cs.takeWhile Char.isDigit) []))
        (cs.dropWhile Char.isDigit) := ⟨_, hcs.symm, .whole hwhole hdigits⟩
    split at h
    case h_1 c after hafter =>
      split at h
      case isTrue hc =>
        cases h
        refine ⟨cs.takeWhile Char.isDigit ++ '.' :: (c :: after).takeWhile Char.isDigit, ?_,
          .decimal hwhole (by simp [hc]) ?_⟩
        · rw [List.append_assoc, List.cons_append, List.takeWhile_append_dropWhile, ← hafter, hcs]
        · refine List.forall_mem_append.2 ⟨hdigits, fun c hc => List.mem_takeWhile_imp hc⟩
      case isFalse =>
        cases h
        exact hafter ▸ hinteger
    case h_2 =>
      cases h
      exact hinteger

theorem takes_of_scanOperator (h : scanOperator cs = some (t, rest)) : Takes cs t rest := by
  rw [scanOperator.eq_def] at h
  split at h <;> cases h <;> exact ⟨_, rfl, .operator _⟩

theorem takes_of_scanDelimiter (h : scanDelimiter cs = some (t, rest)) : Takes cs t rest := by
  rw [scanDelimiter.eq_def] at h
  split at h <;> cases h <;> exact ⟨_, rfl, .delimiter _⟩

theorem takes_of_scanInputName (h : scanInputName cs = some (t, rest)) : Takes cs t rest := by
  rw [scanInputName.eq_def] at h
  split at h <;> cases h
  exact ⟨['?'], rfl, .inputName⟩

theorem takes_of_scanName (h : scanName cs = some (t, rest)) : Takes cs t rest := by
  rw [scanName.eq_def] at h
  split at h
  case h_1 c cs =>
    split at h
    case isTrue hstart =>
      cases h
      refine ⟨c :: cs.takeWhile continuesName, ?_, .name hstart fun c hc => ?_⟩
      · rw [List.cons_append, List.takeWhile_append_dropWhile]
      · exact List.mem_takeWhile_imp hc
    case isFalse => cases h
  case h_2 => cases h

theorem takes_of_scan (h : scan cs = some (t, rest)) : Takes cs t rest := by
  simp only [scan, Option.or_eq_some_iff] at h
  obtain h | ⟨-, h | ⟨-, h | ⟨-, h | ⟨-, h | ⟨-, h | ⟨-, h | ⟨-, h | ⟨-, h⟩⟩⟩⟩⟩⟩⟩⟩ := h
  · exact takes_of_scanWhitespace h
  · exact takes_of_scanNewline h
  · exact takes_of_scanComment h
  · exact takes_of_scanString h
  · exact takes_of_scanNumber h
  · exact takes_of_scanOperator h
  · exact takes_of_scanDelimiter h
  · exact takes_of_scanInputName h
  · exact takes_of_scanName h

theorem scanWhitespace_eq_none_iff {c : Char} :
    scanWhitespace (c :: cs) = none ↔ isInlineSpace c = false := by
  rw [scanWhitespace, List.takeWhile_cons]
  cases isInlineSpace c <;> simp

theorem isSome_scanNumber {c : Char} (h : c.isDigit = true) :
    (scanNumber (c :: cs)).isSome = true := by
  simp only [scanNumber, List.takeWhile_cons_of_pos h, List.isEmpty_cons, Bool.false_eq_true,
    ↓reduceIte]
  split
  · split <;> rfl
  · rfl

theorem stringBody_of_encodes {body : List Char} (h : Encodes body cs) :
    stringBody (cs ++ '"' :: rest) = some (body, rest) := by
  induction h with
  | nil => rfl
  | plain hquote hescape _ ih =>
    rw [List.cons_append, stringBody, ih]
    · rfl
    · exact hquote
    · exact fun h _ => hescape h
    · exact fun _ _ h _ => hescape h
  | escape he _ ih =>
    rw [List.cons_append, List.cons_append, stringBody, he, ih]
    rfl

-- A sign that goes on to a longer operator is an operator either way.
theorem isSome_scanOperator (o : Operator) :
    (scanOperator (o.text.toList ++ rest)).isSome = true := by
  cases o with
  | dot | greater | less | times =>
    rw [scanOperator.eq_def]
    split <;> first | rfl | simp_all [Operator.text]
  | _ => rfl

-- Comments start with a sign that is an operator as well.
theorem Spells.isSome_scan (h : Spells t piece) : (scan (piece ++ rest)).isSome = true := by
  simp only [scan, Option.isSome_or]
  cases h with
  | @whitespace cs hne hspace =>
    obtain ⟨c, cs, rfl⟩ := List.exists_cons_of_ne_nil hne
    have hsome : (scanWhitespace (c :: (cs ++ rest))).isSome = true := by
      rw [Option.isSome_iff_ne_none, ne_eq, scanWhitespace_eq_none_iff, hspace c List.mem_cons_self]
      exact Bool.noConfusion
    simp [hsome]
  | lineFeed | carriageReturn => simp [scanNewline]
  | blockComment | lineComment => simp [scanOperator]
  | string hbody => simp [scanString, stringBody_of_encodes hbody]
  | whole hne hdigits | decimal hne _ hdigits =>
    obtain ⟨c, cs, rfl⟩ := List.exists_cons_of_ne_nil hne
    simp [isSome_scanNumber (hdigits c List.mem_cons_self)]
  | operator o => simp [isSome_scanOperator o]
  | delimiter d => cases d <;> simp [scanDelimiter, Delimiter.text]
  | inputName => simp [scanInputName]
  | name hstart => simp [scanName, hstart]

theorem Spells.ne_nil (h : Spells t piece) : piece ≠ [] := by
  cases h with
  | whitespace hne | whole hne => exact hne
  | decimal => simp
  | operator o => cases o <;> simp [Operator.text]
  | delimiter d => cases d <;> simp [Delimiter.text]
  | _ => exact List.cons_ne_nil _ _

theorem scan_eq_none_iff : scan cs = none ↔ ∀ t piece, piece <+: cs → ¬Spells t piece := by
  constructor
  · rintro hnone t piece ⟨rest, rfl⟩ hspells
    have hsome : (scan (piece ++ rest)).isSome = true := hspells.isSome_scan
    rw [hnone] at hsome
    cases hsome
  · intro h
    refine Option.eq_none_iff_forall_ne_some.2 fun (t, rest) hscan => ?_
    obtain ⟨piece, rfl, hspells⟩ := takes_of_scan hscan
    exact h t piece (List.prefix_append piece rest) hspells

end Rulebook.Syntax
