import TreeQuery.Proofs.Pattern.Completeness
import TreeQuery.Proofs.Value.RoundTrip

/-!
# Quoting plain texts

The spelling of a plain text stands between quotes of either kind, where it is
one token and is read back: as a string between double quotes, and between
single quotes as a text, which patterns have and values have not.
-/

namespace TreeQuery

open Reading

section

variable {kind : Token.Kind} {close : Char} {text : Text} {source : String}

/-- A source that is a text between delimiters is one token, which means the
text. -/
private theorem lexed_of_spelled
    (scans : ∀ {body}, Quotable close true body →
      Token.Scans (close :: (body ++ [close])) []
        (Token.Lexed kind (close :: (body ++ [close]))))
    (formed : Segment.Formed (· ≠ close) (· ≠ '\n') text.segments)
    (spelled : source.toList =
      close :: (text.segments.flatMap Segment.written ++ [close])) :
    Token.Lexed kind source.toList (tokenize source) ∧
      DerivesToken kind (fun token => Text.decode token.body) (tokenize source)
        text := by
  have lexed := tokenize_of_scans (scans formed.quotable)
  rw [← spelled, String.ofList_toList] at lexed
  refine ⟨lexed, ?_⟩
  rw [spelled] at lexed
  exact derivesToken_of_lexed formed lexed

/-- Where values are read, a text of patterns is refused as such. -/
theorem Value.read_of_lexed_text {lexeme : List Char}
    (lexed : Token.Lexed .text lexeme (tokenize source)) :
    ∃ failure, read source = .error failure ∧
      failure.reason = some "text pattern is only allowed in patterns" := by
  obtain ⟨⟨kind, lexeme, start, stop⟩, whole, rfl, -⟩ := lexed
  unfold read readAll
  rw [whole]
  -- No rule looks further than the kind of the only token.
  exact ⟨_, rfl, rfl⟩

end

namespace Text

/-- Every plain text has a spelling that quotes of either kind can hold.  It
stands for the text, is decoded as it was spelled, is one token between the
quotes and is read back: as a string by both readers from double quotes, and
from single quotes as a text by the reader of patterns only.  A body is the
written form of what it is decoded to unless its last backslash takes no
character with it, decoding what was written changes nothing, and the segments
have no empty run and no two runs that meet. -/
theorem quoting_reads_back :
    (∀ (plain : String) (readRegex : Pattern.RegexReader),
      let text := ofPlain plain
      let double := "\"" ++ text.escaped ++ "\""
      let single := "'" ++ text.escaped ++ "'"
      text.plain = plain ∧ decode text.escaped = text ∧
        Token.Lexed .string double.toList (tokenize double) ∧
        Token.Lexed .text single.toList (tokenize single) ∧
        Value.read double = .ok (.string text) ∧
        Pattern.readWith readRegex double = .ok (.string text) ∧
        Pattern.readWith readRegex single = .ok (.text text) ∧
        ∃ failure, Value.read single = .error failure ∧
          failure.reason = some "text pattern is only allowed in patterns") ∧
    ∀ body : String,
      ((decode body).escaped = body ↔ ¬Segment.EndsUnpaired body.toList) ∧
        decode (decode body).escaped = decode body ∧
        .raw [] ∉ (decode body).segments ∧
        ∀ left right, ¬[.raw left, .raw right] <:+: (decode body).segments := by
  constructor
  · intro plain readRegex text double single
    have formed := Segment.ofPlain_formed plain.toList
    have fitsDouble : Segment.Formed (· ≠ '"') (· ≠ '\n') text.segments :=
      formed.mono (fun _ noQuotes => noQuotes.1) fun _ => id
    have fitsSingle : Segment.Formed (· ≠ '\'') (· ≠ '\n') text.segments :=
      formed.mono (fun _ noQuotes => noQuotes.2) fun _ => id
    have spelledDouble : double.toList =
        '"' :: (text.segments.flatMap Segment.written ++ ['"']) := by
      simp [double, escaped]
    have spelledSingle : single.toList =
        '\'' :: (text.segments.flatMap Segment.written ++ ['\'']) := by
      simp [single, escaped]
    obtain ⟨lexed, derived⟩ :=
      lexed_of_spelled Token.scans_string fitsDouble spelledDouble
    obtain ⟨lexed', derived'⟩ :=
      lexed_of_spelled Token.scans_text fitsSingle spelledSingle
    exact ⟨plain_ofPlain plain, decode_written formed, lexed, lexed',
      Value.read_eq_ok_iff.mpr derived,
      Pattern.readWith_of_derives (.term (.atom (.string derived))),
      Pattern.readWith_of_derives (.term (.atom (.text derived'))),
      Value.read_of_lexed_text lexed'⟩
  · intro body
    have formed := Segment.ofBody_formed body.toList
    refine ⟨?_, decode_written formed, formed.nil_not_mem, formed.apart⟩
    rw [← Segment.written_ofBody_iff, escaped, decode,
      ← String.toList_inj, String.toList_ofList]

/-- A pattern is read from a plain text between single quotes, but no value. -/
theorem single_quotes_hold_no_value :
    Pattern.read ("'" ++ (ofPlain "a").escaped ++ "'") =
        .ok (.text (ofPlain "a")) ∧
      ∀ value,
        Value.read ("'" ++ (ofPlain "a").escaped ++ "'") ≠ .ok value := by
  refine ⟨rfl, ?_⟩
  intro value found
  cases found

end Text

end TreeQuery
