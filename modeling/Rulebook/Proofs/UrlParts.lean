import Mathlib.Data.Bool.AllAny
import Rulebook.Proofs.FormatShapes

/-!
URLs by their parts: what they begin with, a host up to the first dot, and the rest. The format
accepts what can be put together from such parts, whichever of its alternatives comes upon it, and
there is one way to take it apart.
-/

namespace Rulebook

/-- What a URL begins with: a scheme, `www.`, or one after the other. -/
inductive UrlOpening where
  | www
  | scheme (secure withWww : Bool)
  deriving DecidableEq, Repr

@[ext]
structure UrlParts where
  opening : UrlOpening
  host : List Char
  rest : List Char
  deriving DecidableEq, Repr

def wwwWord : List Char := "www".toList

def schemeText (secure : Bool) : List Char :=
  if secure then "https://".toList else "http://".toList

def wwwText (withWww : Bool) : List Char :=
  if withWww then "www.".toList else []

def UrlOpening.text : UrlOpening → List Char
  | www => wwwText true
  | scheme secure withWww => schemeText secure ++ wwwText withWww

def UrlParts.text (parts : UrlParts) : List Char :=
  parts.opening.text ++ (parts.host ++ '.' :: parts.rest)

namespace Format

/-- Whether a text can be the first label of a host. -/
structure IsHost (host : List Char) : Prop where
  nonempty : host ≠ []
  allowed : ∀ c ∈ host, IsLabelChar c
  first : ∀ c, host.head? = some c → c.isAlphanum = true
  last : ∀ c, host.getLast? = some c → c.isAlphanum = true

structure IsRest (rest : List Char) : Prop where
  enough : 2 ≤ rest.length
  unblank : ∀ c ∈ rest, Text.isBlank c = false

end Format

structure UrlParts.IsProper (parts : UrlParts) : Prop where
  host : Format.IsHost parts.host
  rest : Format.IsRest parts.rest
  /-- Where `www` follows the scheme, the opening takes it. -/
  taken : ∀ secure, parts.opening = .scheme secure false →
    ¬wwwWord <+: parts.host ++ '.' :: parts.rest

namespace Format

variable {text : List Char} {c : Char}

theorem contains_labelChars : (alphanumericsAnd ['-']).contains c = true ↔ IsLabelChar c := by
  rw [alphanumericsAnd, CharSet.contains, Bool.or_eq_true, contains_alphanumerics,
    CharSet.contains_ofList, List.mem_singleton, IsLabelChar]

theorem matches_rest : (atLeast 2 (.one (.compl blanks))).Matches text ↔ IsRest text := by
  have unblank (c : Char) :
      CharSet.contains c (.compl blanks) = true ↔ Text.isBlank c = false := by
    rw [CharSet.contains, blanks, CharSet.contains, Unicode.Property.holds, Bool.not_eq_true']
  rw [matches_atLeast_one]
  simp only [unblank]
  exact ⟨fun both => ⟨both.1, both.2⟩, fun rest => ⟨rest.enough, rest.unblank⟩⟩

theorem matches_longHost : longHost.Matches text ↔ ∃ first middle last rest,
    text = first :: (middle ++ [last]) ++ '.' :: rest ∧ first.isAlphanum = true ∧ middle ≠ [] ∧
      (∀ c ∈ middle, IsLabelChar c) ∧ last.isAlphanum = true ∧ IsRest rest := by
  simp only [longHost, Plain.matches_sequence_cons, matches_oneOrMore_one, matches_char,
    matches_rest, contains_labelChars]
  constructor
  · rintro ⟨_, _, rfl, ⟨first, rfl, firstMember⟩, middle, _, rfl, ⟨filled, allowed⟩, _, _, rfl,
      ⟨last, rfl, lastMember⟩, _, _, rfl, rfl, rest, _, rfl, proper, rfl⟩
    exact ⟨first, middle, last, rest, by simp, contains_alphanumerics.mp firstMember, filled,
      allowed, contains_alphanumerics.mp lastMember, proper⟩
  · rintro ⟨first, middle, last, rest, rfl, firstMember, filled, allowed, lastMember, proper⟩
    exact ⟨[first], _, by simp, ⟨first, rfl, contains_alphanumerics.mpr firstMember⟩, middle, _,
      rfl, ⟨filled, allowed⟩, [last], _, rfl, ⟨last, rfl, contains_alphanumerics.mpr lastMember⟩,
      ['.'], _, rfl, rfl, rest, [], (List.append_nil rest).symm, proper, rfl⟩

theorem matches_shortHost : shortHost.Matches text ↔ ∃ host rest, text = host ++ '.' :: rest ∧
    host ≠ [] ∧ (∀ c ∈ host, c.isAlphanum = true) ∧ IsRest rest := by
  simp only [shortHost, Plain.matches_sequence_cons, matches_oneOrMore_one, matches_char,
    matches_rest, contains_alphanumerics]
  constructor
  · rintro ⟨host, _, rfl, ⟨filled, members⟩, _, _, rfl, rfl, rest, _, rfl, proper, rfl⟩
    exact ⟨host, rest, by simp, filled, members, proper⟩
  · rintro ⟨host, rest, rfl, filled, members, proper⟩
    exact ⟨host, _, rfl, ⟨filled, members⟩, ['.'], _, rfl, rfl, rest, [],
      (List.append_nil rest).symm, proper, rfl⟩

namespace IsHost

variable {host : List Char}

theorem of_ends {first last : Char} {middle : List Char} (firstMember : first.isAlphanum = true)
    (allowed : ∀ c ∈ middle, IsLabelChar c) (lastMember : last.isAlphanum = true) :
    IsHost (first :: (middle ++ [last])) where
  nonempty := List.cons_ne_nil _ _
  allowed := by
    rw [List.forall_mem_cons, List.forall_mem_append]
    exact ⟨.inl firstMember, allowed, List.forall_mem_singleton.mpr (.inl lastMember)⟩
  first := by
    rintro c same
    cases same
    exact firstMember
  last := by
    intro c same
    rw [Text.getLast?_ends] at same
    cases same
    exact lastMember

theorem of_alphanumeric (filled : host ≠ []) (members : ∀ c ∈ host, c.isAlphanum = true) :
    IsHost host where
  nonempty := filled
  allowed c member := .inl (members c member)
  first c found := members c (List.mem_of_head? found)
  last c found := members c (List.mem_of_getLast? found)

/-- A host is short enough to be of letters and digits alone, or there is something between its
first and last character. -/
theorem cases_length (proper : IsHost host) : (∀ c ∈ host, c.isAlphanum = true) ∨
    ∃ first middle last, host = first :: (middle ++ [last]) ∧ first.isAlphanum = true ∧
      middle ≠ [] ∧ (∀ c ∈ middle, IsLabelChar c) ∧ last.isAlphanum = true := by
  obtain ⟨first, tail, rfl⟩ := List.exists_cons_of_ne_nil proper.nonempty
  have firstMember := proper.first first rfl
  rcases List.eq_nil_or_concat tail with rfl | ⟨middle, last, rfl⟩
  · exact .inl (List.forall_mem_singleton.mpr firstMember)
  · rw [List.concat_eq_append] at proper ⊢
    have lastMember := proper.last last (Text.getLast?_ends first middle last)
    by_cases filled : middle = []
    · subst filled
      refine .inl ?_
      rw [List.nil_append, List.forall_mem_cons, List.forall_mem_singleton]
      exact ⟨firstMember, lastMember⟩
    · refine .inr ⟨first, middle, last, rfl, firstMember, filled, ?_, lastMember⟩
      intro c member
      exact proper.allowed c (List.mem_cons_of_mem _ (List.mem_append_left _ member))

theorem dot_not_mem (proper : IsHost host) : '.' ∉ host := by
  intro member
  rcases proper.allowed '.' member with alphanumeric | hyphen
  · revert alphanumeric
    decide
  · cases hyphen

end IsHost

/-- The two kinds of hosts of the pattern, long ones with hyphens and short ones without, are
together of one shape. -/
theorem matches_host : longHost.Matches text ∨ shortHost.Matches text ↔
    ∃ host rest, text = host ++ '.' :: rest ∧ IsHost host ∧ IsRest rest := by
  rw [matches_longHost, matches_shortHost]
  constructor
  · rintro (⟨first, middle, last, rest, rfl, firstMember, _, allowed, lastMember, proper⟩ |
      ⟨host, rest, rfl, filled, members, proper⟩)
    · exact ⟨_, rest, rfl, .of_ends firstMember allowed lastMember, proper⟩
    · exact ⟨host, rest, rfl, .of_alphanumeric filled members, proper⟩
  · rintro ⟨host, rest, rfl, isHost, proper⟩
    rcases isHost.cases_length with members |
      ⟨first, middle, last, rfl, firstMember, filled, allowed, lastMember⟩
    · exact .inr ⟨host, rest, rfl, isHost.nonempty, members, proper⟩
    · exact .inl ⟨first, middle, last, rest, rfl, firstMember, filled, allowed, lastMember, proper⟩

theorem matches_scheme :
    (Plain.sequence [word "http", optional (char 's'), word "://"]).Matches text ↔
      ∃ secure, text = schemeText secure := by
  simp only [Plain.matches_sequence_cons, matches_word, matches_optional, matches_char]
  constructor
  · rintro ⟨_, _, rfl, rfl, _, _, rfl, rfl | rfl, _, _, rfl, rfl, rfl⟩
    · exact ⟨false, rfl⟩
    · exact ⟨true, rfl⟩
  · rintro ⟨secure, rfl⟩
    cases secure with
    | false => exact ⟨_, "://".toList, rfl, rfl, [], _, rfl, .inl rfl, _, [], rfl, rfl, rfl⟩
    | true => exact ⟨_, "s://".toList, rfl, rfl, ['s'], _, rfl, .inr rfl, _, [], rfl, rfl, rfl⟩

theorem matches_withScheme {host : Plain} : (withScheme host).Matches text ↔
    ∃ secure withWww body, text = schemeText secure ++ (wwwText withWww ++ body) ∧
      host.Matches body ∧ (withWww = false → ¬wwwWord <+: body) := by
  have cut : withScheme host = Plain.sequence
      ([word "http", optional (char 's'), word "://"] ++
        [.alt (.seq (word "www.") host) (.barred wwwWord host)]) := rfl
  rw [cut, Plain.matches_sequence_append]
  simp only [matches_scheme]
  simp only [Plain.sequence, Plain.Matches, matches_word]
  constructor
  · rintro ⟨_, ending, rfl, ⟨secure, rfl⟩, ⟨_, body, rfl, rfl, hosted⟩ | ⟨hosted, unbarred⟩⟩
    · refine ⟨secure, true, body, rfl, hosted, ?_⟩
      rintro ⟨⟩
    · exact ⟨secure, false, ending, rfl, hosted, fun _ => unbarred⟩
  · rintro ⟨secure, withWww, body, rfl, hosted, unbarred⟩
    refine ⟨_, wwwText withWww ++ body, rfl, ⟨secure, rfl⟩, ?_⟩
    cases withWww with
    | false => exact .inr ⟨hosted, unbarred rfl⟩
    | true => exact .inl ⟨_, body, rfl, rfl, hosted⟩

/-- With or without a scheme, the pattern tries long hosts and short ones. -/
theorem matches_urlPattern : urlPattern.Matches text ↔ ∃ opening body,
    text = UrlOpening.text opening ++ body ∧ (longHost.Matches body ∨ shortHost.Matches body) ∧
      ∀ secure, opening = .scheme secure false → ¬wwwWord <+: body := by
  simp only [urlPattern, Plain.choice, Plain.Matches, matches_withScheme, matches_word]
  constructor
  · rintro (⟨secure, withWww, body, rfl, hosted, unbarred⟩ | ⟨_, body, rfl, rfl, hosted⟩ |
      ⟨secure, withWww, body, rfl, hosted, unbarred⟩ | ⟨_, body, rfl, rfl, hosted⟩)
    · refine ⟨.scheme secure withWww, body, (List.append_assoc _ _ _).symm, .inl hosted, ?_⟩
      rintro _ ⟨⟩
      exact unbarred rfl
    · refine ⟨.www, body, rfl, .inl hosted, ?_⟩
      rintro _ ⟨⟩
    · refine ⟨.scheme secure withWww, body, (List.append_assoc _ _ _).symm, .inr hosted, ?_⟩
      rintro _ ⟨⟩
      exact unbarred rfl
    · refine ⟨.www, body, rfl, .inr hosted, ?_⟩
      rintro _ ⟨⟩
  · rintro ⟨opening, body, rfl, hosted, unbarred⟩
    cases opening with
    | www =>
        rcases hosted with long | short
        · exact .inr (.inl ⟨_, body, rfl, rfl, long⟩)
        · exact .inr (.inr (.inr ⟨_, body, rfl, rfl, short⟩))
    | scheme secure withWww =>
        have free : withWww = false → ¬wwwWord <+: body := by
          rintro rfl
          exact unbarred secure rfl
        rcases hosted with long | short
        · exact .inl ⟨secure, withWww, body, List.append_assoc _ _ _, long, free⟩
        · exact .inr (.inr (.inl ⟨secure, withWww, body, List.append_assoc _ _ _, short, free⟩))

theorem accepts_url_iff :
    url.accepts text = true ↔ ∃ parts : UrlParts, parts.IsProper ∧ parts.text = text := by
  have free : urlPattern.isFree = true := by decide
  rw [accepts, Plain.covers_iff free, matches_urlPattern]
  simp only [matches_host]
  constructor
  · rintro ⟨opening, _, rfl, ⟨host, rest, rfl, isHost, isRest⟩, taken⟩
    exact ⟨⟨opening, host, rest⟩, ⟨isHost, isRest, taken⟩, rfl⟩
  · rintro ⟨⟨opening, host, rest⟩, proper, rfl⟩
    exact ⟨opening, _, rfl, ⟨host, rest, rfl, proper.host, proper.rest⟩, proper.taken⟩

/-! ### One way to take a URL apart -/

section Openings

variable {body otherBody : List Char}

theorem schemeText_append_inj {secure otherSecure : Bool}
    (same : schemeText secure ++ body = schemeText otherSecure ++ otherBody) :
    secure = otherSecure ∧ body = otherBody := by
  by_cases agree : secure = otherSecure
  · subst agree
    exact ⟨rfl, List.append_cancel_left same⟩
  · cases secure <;> cases otherSecure <;> simp [schemeText] at agree same

theorem www_ne_schemeText {secure : Bool} :
    wwwText true ++ body ≠ schemeText secure ++ otherBody := by
  cases secure <;> simp [schemeText, wwwText]

/-- Where a body may not begin with `www`, it is told whether `www.` was taken before it. -/
theorem wwwText_append_inj {taken otherTaken : Bool}
    (same : wwwText taken ++ body = wwwText otherTaken ++ otherBody)
    (free : taken = false → ¬wwwWord <+: body)
    (otherFree : otherTaken = false → ¬wwwWord <+: otherBody) :
    taken = otherTaken ∧ body = otherBody := by
  have begins (body : List Char) : wwwWord <+: wwwText true ++ body := ⟨'.' :: body, rfl⟩
  cases taken with
  | true =>
      cases otherTaken with
      | true => exact ⟨rfl, List.append_cancel_left same⟩
      | false =>
          have longer : wwwText true ++ body = otherBody := same
          exact absurd (longer ▸ begins body) (otherFree rfl)
  | false =>
      cases otherTaken with
      | true =>
          have longer : body = wwwText true ++ otherBody := same
          exact absurd (longer ▸ begins otherBody) (free rfl)
      | false => exact ⟨rfl, same⟩

theorem opening_text_append_inj {opening otherOpening : UrlOpening}
    (same : opening.text ++ body = otherOpening.text ++ otherBody)
    (free : ∀ secure, opening = .scheme secure false → ¬wwwWord <+: body)
    (otherFree : ∀ secure, otherOpening = .scheme secure false → ¬wwwWord <+: otherBody) :
    opening = otherOpening ∧ body = otherBody := by
  cases opening with
  | www =>
      cases otherOpening with
      | www => exact ⟨rfl, List.append_cancel_left same⟩
      | scheme secure withWww =>
          rw [UrlOpening.text, UrlOpening.text, List.append_assoc] at same
          exact absurd same www_ne_schemeText
  | scheme secure withWww =>
      cases otherOpening with
      | www =>
          rw [UrlOpening.text, UrlOpening.text, List.append_assoc] at same
          exact absurd same.symm www_ne_schemeText
      | scheme otherSecure otherWww =>
          rw [UrlOpening.text, UrlOpening.text, List.append_assoc, List.append_assoc] at same
          obtain ⟨rfl, afterScheme⟩ := schemeText_append_inj same
          obtain ⟨rfl, rfl⟩ := wwwText_append_inj afterScheme (fun none => free secure (none ▸ rfl))
            fun none => otherFree secure (none ▸ rfl)
          exact ⟨rfl, rfl⟩

end Openings

/-- The first dot is where the first part ends, if there is none in it. -/
theorem append_dot_inj {front back otherFront otherBack : List Char}
    (same : front ++ '.' :: back = otherFront ++ '.' :: otherBack) (dotless : '.' ∉ front)
    (otherDotless : '.' ∉ otherFront) : front = otherFront ∧ back = otherBack := by
  rcases List.append_eq_append_iff.mp same with ⟨more, rfl, tail⟩ | ⟨more, rfl, tail⟩
  · cases more with
    | nil => exact ⟨(List.append_nil _).symm, (List.cons.inj tail).2⟩
    | cons c more =>
        obtain ⟨rfl, _⟩ := List.cons.inj tail
        exact absurd (List.mem_append_right _ List.mem_cons_self) otherDotless
  · cases more with
    | nil => exact ⟨List.append_nil _, (List.cons.inj tail).2.symm⟩
    | cons c more =>
        obtain ⟨rfl, _⟩ := List.cons.inj tail
        exact absurd (List.mem_append_right _ List.mem_cons_self) dotless

end Format

namespace UrlParts

theorem text_inj {parts others : UrlParts} (proper : parts.IsProper) (othersProper : others.IsProper)
    (same : parts.text = others.text) : parts = others := by
  obtain ⟨opening, body⟩ := Format.opening_text_append_inj same proper.taken othersProper.taken
  obtain ⟨host, rest⟩ :=
    Format.append_dot_inj body proper.host.dot_not_mem othersProper.host.dot_not_mem
  exact UrlParts.ext opening host rest

end UrlParts

namespace Format

/-- The texts that are accepted are those that are put together from the parts of a URL, and these
can be told from the text. After a scheme, `www` is taken for the beginning of `www.`, so it is
refused without a dot. -/
theorem url_accepts_parts (text : List Char) :
    (url.accepts text = true ↔ ∃ parts : UrlParts, parts.IsProper ∧ parts.text = text) ∧
    (∀ parts others : UrlParts, parts.IsProper → others.IsProper →
      parts.text = others.text → parts = others) ∧
    ∀ secure rest, rest.head? ≠ some '.' →
      url.accepts (schemeText secure ++ (wwwWord ++ rest)) = false := by
  refine ⟨accepts_url_iff, fun _ _ proper othersProper => UrlParts.text_inj proper othersProper, ?_⟩
  intro secure rest undotted
  rw [← Bool.not_eq_true, accepts_url_iff]
  rintro ⟨⟨opening, host, back⟩, proper, same⟩
  cases opening with
  | www =>
      exact www_ne_schemeText same
  | scheme other withWww =>
      rw [UrlParts.text, UrlOpening.text, List.append_assoc] at same
      obtain ⟨rfl, afterScheme⟩ := schemeText_append_inj same
      cases withWww with
      | false => exact proper.taken other rfl ⟨rest, afterScheme.symm⟩
      | true =>
          have dotted : wwwWord ++ '.' :: (host ++ '.' :: back) = wwwWord ++ rest := afterScheme
          rw [← List.append_cancel_left dotted] at undotted
          exact undotted rfl

theorem url_accepts_parts_hyphen :
    (∃! parts : UrlParts, parts.IsProper ∧ parts.text = "https://www.a-b.co".toList) ∧
      url.accepts "https://www.a-b.co".toList = true ∧ ['a', '.', 'c', 'o'].head? ≠ some '.' ∧
        url.accepts "http://wwwa.co".toList = false := by
  have hyphens : ∀ c ∈ ['-'], IsLabelChar c := List.forall_mem_singleton.mpr (.inr rfl)
  have host : IsHost ('a' :: (['-'] ++ ['b'])) := .of_ends (by decide) hyphens (by decide)
  have unblank : ∀ c ∈ ['c', 'o'], Text.isBlank c = false := List.all_iff_forall_prop.mp (by decide)
  have rest : IsRest ['c', 'o'] := ⟨by decide, unblank⟩
  let parts : UrlParts := ⟨.scheme true true, ['a', '-', 'b'], ['c', 'o']⟩
  have proper : parts.IsProper := ⟨host, rest, by rintro _ ⟨⟩⟩
  have text : parts.text = "https://www.a-b.co".toList := by decide
  have undotted : ['a', '.', 'c', 'o'].head? ≠ some '.' := by decide
  obtain ⟨accepted, unique, refused⟩ := url_accepts_parts "https://www.a-b.co".toList
  refine ⟨⟨parts, ⟨proper, text⟩, ?_⟩, accepted.mpr ⟨parts, proper, text⟩, undotted,
    refused false _ undotted⟩
  rintro others ⟨othersProper, same⟩
  exact unique others parts othersProper proper (same.trans text.symm)

end Format

end Rulebook
