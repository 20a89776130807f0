import LspRelay.Document.Uri

namespace LspRelay.Proofs.Uris

variable {slashes slashes' : Nat} {drive drive' : Char} {path path' : List Char}

/-- A file URI that names a drive with a plain colon, after any number of slashes. -/
def spelling (slashes : Nat) (drive : Char) (path : List Char) : List Char :=
  ['f', 'i', 'l', 'e', ':'] ++ List.replicate slashes '/' ++ drive :: ':' :: path

def rooted (path : List Char) : List Char :=
  if path.head? = some '/' then path else '/' :: path

def canonicalText (drive : Char) (path : List Char) : List Char :=
  ['f', 'i', 'l', 'e', ':', '/', '/', '/', drive.toLower, '%', '3', 'A'] ++ rooted path

theorem ofChars?_chars (u : DriveUri) : DriveUri.ofChars? u.chars = none := by
  by_cases hd : u.drive = '/'
  · simp [DriveUri.chars, DriveUri.ofChars?, hd]
  · simp [DriveUri.chars, DriveUri.ofChars?, hd]

theorem canonicalUri?_chars (u : DriveUri) : canonicalUri? (String.ofList u.chars) = none := by
  simp [canonicalUri?, ofChars?_chars]

theorem canonicalUri?_canonical {uri new : String} (h : canonicalUri? uri = some new) :
    canonicalUri? new = none := by
  obtain ⟨u, _, rfl⟩ := Option.map_eq_some_iff.mp h
  exact canonicalUri?_chars u

theorem canonicalUri?_ne {uri new : String} (h : canonicalUri? uri = some new) : new ≠ uri := by
  intro he
  have hn := canonicalUri?_canonical h
  rw [he, h] at hn
  cases hn

theorem absolute_eq (path : List Char) : DriveUri.absolute path = rooted path := by
  unfold DriveUri.absolute rooted
  split
  · simp
  · rename_i h
    cases path with
    | nil => rfl
    | cons c cs =>
      rw [if_neg]
      simpa using fun hc : c = '/' => h cs (hc ▸ rfl)

theorem canonicalText_eq : canonicalText drive path =
    DriveUri.chars ⟨drive.toLower, DriveUri.absolute path⟩ := by
  rw [canonicalText, DriveUri.chars, absolute_eq]

theorem ne_slash_of_isAlpha (h : drive.isAlpha = true) : drive ≠ '/' := by
  rintro rfl
  exact absurd h (by decide)

/-- A spelling is read back as its drive and its path. -/
theorem ofChars?_spelling (h : drive.isAlpha = true) :
    DriveUri.ofChars? (spelling slashes drive path) =
      some ⟨drive.toLower, DriveUri.absolute path⟩ := by
  have hslashes : ∀ c ∈ List.replicate slashes '/', decide (c = '/') = true := by
    intro c hc
    simp [List.eq_of_mem_replicate hc]
  have hdrop : (List.replicate slashes '/' ++ drive :: ':' :: path).dropWhile (· = '/') =
      drive :: ':' :: path := by
    rw [List.dropWhile_append_of_pos hslashes]
    simp [ne_slash_of_isAlpha h]
  simp only [spelling, List.cons_append, List.nil_append, DriveUri.ofChars?, hdrop, h, if_true]

/-- Nothing but a spelling is read. -/
theorem spelling_of_ofChars? {cs : List Char} {u : DriveUri} (h : DriveUri.ofChars? cs = some u) :
    ∃ slashes drive path, drive.isAlpha = true ∧ cs = spelling slashes drive path ∧
      u = ⟨drive.toLower, DriveUri.absolute path⟩ := by
  unfold DriveUri.ofChars? at h
  split at h
  · rename_i rest
    split at h
    · rename_i drive path hdrop
      split at h
      · rename_i halpha
        have hslashes : rest.takeWhile (· = '/') =
            List.replicate (rest.takeWhile (· = '/')).length '/' := by
          refine List.eq_replicate_of_mem fun c hc => ?_
          simpa using List.all_eq_true.mp List.all_takeWhile c hc
        refine ⟨(rest.takeWhile (· = '/')).length, drive, path, halpha, ?_,
          (Option.some.inj h).symm⟩
        rw [spelling, ← hslashes, ← hdrop, List.append_assoc, List.takeWhile_append_dropWhile]
        rfl
      · cases h
    · cases h
  · cases h

/-- The URIs that have a canonical text, and what it is. -/
theorem canonicalUri?_eq_some_iff {uri new : String} :
    canonicalUri? uri = some new ↔
      ∃ slashes drive path, drive.isAlpha = true ∧
        uri = String.ofList (spelling slashes drive path) ∧
        new = String.ofList (canonicalText drive path) := by
  simp only [canonicalUri?, Option.map_eq_some_iff]
  constructor
  · rintro ⟨u, hu, rfl⟩
    obtain ⟨slashes, drive, path, halpha, hcs, rfl⟩ := spelling_of_ofChars? hu
    refine ⟨slashes, drive, path, halpha, ?_, by rw [canonicalText_eq]⟩
    rw [← hcs, String.ofList_toList]
  · rintro ⟨slashes, drive, path, halpha, rfl, rfl⟩
    refine ⟨⟨drive.toLower, DriveUri.absolute path⟩, ?_, by rw [canonicalText_eq]⟩
    rw [String.toList_ofList, ofChars?_spelling halpha]

/-- A canonical text says its drive and its path. -/
theorem canonicalText_inj :
    canonicalText drive path = canonicalText drive' path' ↔
      drive.toLower = drive'.toLower ∧ rooted path = rooted path' := by
  simp [canonicalText]

theorem canonicalUri?_spelling (h : drive.isAlpha = true) :
    canonicalUri? (String.ofList (spelling slashes drive path)) =
      some (String.ofList (canonicalText drive path)) :=
  canonicalUri?_eq_some_iff.mpr ⟨slashes, drive, path, h, rfl, rfl⟩

/-- The URIs with a canonical text are the spellings of a drive with a plain colon. The text is
another one and has none of its own; and two spellings have the same text if they name the same
drive, in whichever case, and the same path from its root, and in no other case. -/
theorem canonical_text_of_spelling :
    (∀ uri new, canonicalUri? uri = some new ↔
      ∃ slashes drive path, drive.isAlpha = true ∧
        uri = String.ofList (spelling slashes drive path) ∧
        new = String.ofList (canonicalText drive path)) ∧
    (∀ uri new, canonicalUri? uri = some new → new ≠ uri ∧ canonicalUri? new = none) ∧
    ∀ slashes slashes' drive drive' path path',
      drive.isAlpha = true → drive'.isAlpha = true →
        (canonicalUri? (String.ofList (spelling slashes drive path)) =
            canonicalUri? (String.ofList (spelling slashes' drive' path')) ↔
          drive.toLower = drive'.toLower ∧ rooted path = rooted path') := by
  refine ⟨fun uri new => canonicalUri?_eq_some_iff, ?_, ?_⟩
  · intro uri new h
    exact ⟨canonicalUri?_ne h, canonicalUri?_canonical h⟩
  · intro slashes slashes' drive drive' path path' h h'
    rw [canonicalUri?_spelling h, canonicalUri?_spelling h', Option.some.injEq, String.ofList_inj,
      canonicalText_inj]

/-- Spellings without a slash and with too many of them name one path; a second slash behind the
drive names another. -/
theorem canonical_text_of_spelling_slashes :
    canonicalUri? "file:C:" = canonicalUri? "file:////c:/" ∧
      canonicalUri? "file:C:" ≠ canonicalUri? "file:///c://" := by
  obtain ⟨-, -, hsame⟩ := canonical_text_of_spelling
  refine ⟨(hsame 0 4 'C' 'c' [] ['/'] rfl rfl).mpr (by decide), ?_⟩
  intro h
  exact absurd ((hsame 0 3 'C' 'c' [] ['/', '/'] rfl rfl).mp h) (by decide)

end LspRelay.Proofs.Uris
