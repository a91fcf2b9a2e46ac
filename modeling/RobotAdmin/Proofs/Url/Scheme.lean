import RobotAdmin.Proofs.Text.Cutting
import RobotAdmin.Url.Parse

namespace RobotAdmin.Url

/-- The characters that a part of a URL can begin with behind its host. -/
def isMark (c : Char) : Bool := c == '/' || c == '?' || c == '#'

/-- The beginning of a text as it counts in a URL that goes on behind it. -/
def cleanStart (text : List Char) : List Char := (text.dropWhile isEdge).filter fun c => !isBreak c

/-- The end of a text as it counts in a URL that has begun before it. -/
def cleanEnd (text : List Char) : List Char := (Text.dropEnd isEdge text).filter fun c => !isBreak c

theorem clean_append_mark {mark : Char} (hmark : isMark mark = true) (before after : List Char) :
    clean (before ++ mark :: after) = cleanStart before ++ mark :: cleanEnd after := by
  have hedge : isEdge mark = false ∧ isBreak mark = false := by
    simp only [isMark, Bool.or_eq_true, beq_iff_eq] at hmark
    obtain (rfl | rfl) | rfl := hmark <;> decide
  simp [clean, cleanStart, cleanEnd, Text.dropWhile_append_cons_of_neg hedge.1,
    Text.dropEnd_append_cons_of_neg hedge.1, hedge.2]

/-- The scheme of a URL does not depend on what follows a mark. -/
theorem scheme?_append_mark {mark : Char} (hmark : isMark mark = true) (before after : List Char) :
    scheme? (before ++ mark :: after) =
      (scheme? before).map fun (scheme, rest) => (scheme, rest ++ mark :: after) := by
  have hnone : isSchemeChar mark = false ∧ mark.isAlpha = false ∧ mark ≠ ':' := by
    simp only [isMark, Bool.or_eq_true, beq_iff_eq] at hmark
    obtain (rfl | rfl) | rfl := hmark <;> decide
  obtain ⟨hscheme, halpha, hcolon⟩ := hnone
  cases before with
  | nil => simp [scheme?, halpha]
  | cons c rest =>
    unfold scheme?
    rw [Text.dropWhile_append_cons_of_neg hscheme, Text.takeWhile_append_cons_of_neg hscheme]
    simp only [List.cons_append, List.head?_cons, Option.any_some]
    by_cases hc : c.isAlpha = true
    · cases hdrop : (c :: rest).dropWhile isSchemeChar with
      | nil => simp [hc, hcolon]
      | cons d behind =>
        by_cases hd : d = ':'
        · simp [hc, hd]
        · simp [hc, hd]
    · simp [hc]

/-- What follows the scheme stands behind the first colon. -/
theorem eq_tail_of_scheme? {text rest : List Char} {scheme : String}
    (hscheme : scheme? text = some (scheme, rest)) : rest = (text.dropWhile (· != ':')).tail := by
  have hskip : ∀ text : List Char, text.dropWhile isSchemeChar = ':' :: rest →
      rest = (text.dropWhile (· != ':')).tail := by
    intro text
    induction text with
    | nil => simp
    | cons c text ih =>
      intro hdrop
      by_cases hc : c = ':'
      · subst hc
        simpa [isSchemeChar] using hdrop.symm
      · by_cases hchar : isSchemeChar c = true
        · rw [List.dropWhile_cons_of_pos hchar] at hdrop
          simpa [hc] using ih hdrop
        · rw [List.dropWhile_cons_of_neg hchar] at hdrop
          simp [hc] at hdrop
  unfold scheme? at hscheme
  split at hscheme
  · split at hscheme
    · rename_i behind hdrop
      simp only [Option.some.injEq, Prod.mk.injEq] at hscheme
      exact hskip text (hscheme.2 ▸ hdrop)
    · cases hscheme
  · cases hscheme

theorem ofAuthority?_scheme {scheme : String} {kind : Kind} {text : List Char} {url : Url}
    (hurl : ofAuthority? scheme kind text = some url) : url.scheme = scheme := by
  obtain ⟨authority, _, rfl⟩ := Option.map_eq_some_iff.mp hurl
  rfl

theorem ofFile?_scheme {text : List Char} {url : Url} (hurl : ofFile? text = some url) : url.scheme = "file" := by
  unfold ofFile? at hurl
  simp only [Option.bind_eq_bind] at hurl
  repeat' split at hurl
  all_goals
    obtain ⟨_, _, hurl⟩ := Option.bind_eq_some_iff.mp hurl
    obtain rfl := Option.some.inj hurl
    rfl

theorem ofOther?_scheme {scheme : String} {text : List Char} {url : Url}
    (hurl : ofOther? scheme text = some url) : url.scheme = scheme := by
  unfold ofOther? at hurl
  split at hurl
  · exact ofAuthority?_scheme hurl
  · generalize cutEnd .other text = cut at hurl
    obtain ⟨path, query, fragment⟩ := cut
    simp only at hurl
    split at hurl <;>
    · obtain rfl := Option.some.inj hurl
      rfl

/-- A URL that can be requested was read by the rules of schemes with hosts. -/
theorem kindOf_of_isHttp {scheme : String} {text : List Char} {url : Url}
    (hurl : ofScheme? scheme text = some url) (hhttp : url.isHttp = true) : kindOf scheme = .hosted := by
  have hhosted : ∀ scheme : String, scheme = "http" ∨ scheme = "https" → kindOf scheme = .hosted := by
    rintro _ (rfl | rfl) <;> decide
  simp only [isHttp, Bool.or_eq_true, beq_iff_eq] at hhttp
  unfold ofScheme? at hurl
  split at hurl
  · assumption
  · rw [ofFile?_scheme hurl] at hhttp
    simp at hhttp
  · rw [ofOther?_scheme hurl] at hhttp
    exact hhosted scheme hhttp

theorem ofScheme?_of_hosted {scheme : String} (hkind : kindOf scheme = .hosted) (text : List Char) :
    ofScheme? scheme text = ofAuthority? scheme .hosted (text.dropWhile Kind.hosted.isSlash) := by
  simp only [ofScheme?, hkind]

end RobotAdmin.Url
