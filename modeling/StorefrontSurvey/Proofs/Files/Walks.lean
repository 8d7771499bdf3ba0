import Mathlib.Data.Nat.Init
import StorefrontSurvey.Files.Files
import StorefrontSurvey.Proofs.Path.Names
/-!
Walks along names: what one name does, what a finished walk keeps when more links are allowed, and
the places that are reached through directories alone. What is asked of a path is then read off one
walk.
-/
namespace StorefrontSurvey.Files

open StorefrontSurvey.Path (Chars Segment Location Absolute IsName Names SlashFree)

/-- What comes of one name at a place: a fault, another place, or a link to be followed. -/
inductive Turn where
  | stop (cause : Cause)
  | go (next : Location)
  | through (target : Chars)

def turn (files : Files) (place : Location) (name : Segment) : Turn :=
  if !files.isDirectory place then .stop .notDirectory
  else if name = [] ∨ name = Path.dot then .go place
  else if name = Path.dotDot then .go place.dropLast
  else if longestName < byteLength name then .stop .nameTooLong
  else match files.node? (place ++ [name]) with
    | none => .stop .missing
    | some (.link target) => .through target
    | some _ => .go (place ++ [name])

/-- What is left to follow once a link has been entered. -/
def enter (files : Files) (followLast : Bool) (links : Nat) (place : Location) (target : Chars)
    (rest : List Segment) : Except Cause Location :=
  match links with
  | 0 => .error .manyLinks
  | links + 1 =>
    files.walk followLast links (startOf place target).1 ((startOf place target).2 ++ rest)

theorem walk_nil (files : Files) (followLast : Bool) (links : Nat) (place : Location) :
    files.walk followLast links place [] = .ok place := by
  cases links <;> rfl

theorem walk_cons (files : Files) (followLast : Bool) (links : Nat) (place : Location)
    (name : Segment) (rest : List Segment) :
    files.walk followLast links place (name :: rest) =
      match files.turn place name with
      | .stop cause => .error cause
      | .go next => files.walk followLast links next rest
      | .through target =>
        if rest.isEmpty && !followLast then .ok (place ++ [name])
        else files.enter followLast links place target rest := by
  cases links with
  | zero =>
      simp only [walk, walkNames, turn, enter]
      repeat' split
      all_goals simp_all
  | succ links =>
      simp only [walk, walkNames, turn, enter]
      repeat' split
      all_goals simp_all

/-- Walks end because each name uses itself up and each link uses up one of the links allowed. -/
theorem walk_induction {motive : Nat → Location → List Segment → Prop}
    (nil : ∀ links place, motive links place [])
    (cons : ∀ links place name rest, (∀ next, motive links next rest) →
      (∀ fewer next names, fewer < links → motive fewer next names) →
      motive links place (name :: rest))
    (links : Nat) (place : Location) (names : List Segment) : motive links place names := by
  induction links using Nat.strong_induction_on generalizing place names with
  | _ links deeper =>
      induction names generalizing place with
      | nil => exact nil links place
      | cons name rest ih =>
          exact cons links place name rest ih fun fewer next names less =>
            deeper fewer less next names

/-! ### More links -/

theorem walk_one_more (files : Files) (followLast : Bool) (links : Nat) (place : Location)
    (names : List Segment)
    (finished : files.walk followLast links place names ≠ .error .manyLinks) :
    files.walk followLast (links + 1) place names = files.walk followLast links place names := by
  induction links, place, names using walk_induction with
  | nil links place => rw [walk_nil, walk_nil]
  | cons links place name rest ih deeper =>
      rw [walk_cons] at finished ⊢
      rw [walk_cons]
      cases found : files.turn place name with
      | stop cause => rfl
      | go next =>
          rw [found] at finished
          exact ih next finished
      | through target =>
          simp only [found] at finished ⊢
          by_cases last : (rest.isEmpty && !followLast) = true
          · rw [if_pos last, if_pos last]
          · rw [if_neg last] at finished
            rw [if_neg last, if_neg last]
            cases links with
            | zero => exact absurd rfl finished
            | succ links => exact deeper links _ _ (Nat.lt_succ_self links) finished

theorem walk_more (files : Files) (followLast : Bool) {links most : Nat} (place : Location)
    (names : List Segment) (le : links ≤ most)
    (finished : files.walk followLast links place names ≠ .error .manyLinks) :
    files.walk followLast most place names = files.walk followLast links place names := by
  induction most, le using Nat.le_induction with
  | base => rfl
  | succ most _ ih =>
      rw [← ih] at finished ⊢
      exact walk_one_more files followLast most place names finished

/-- Two walks that both finish, with whatever links they were allowed, agree. -/
theorem walks_agree (files : Files) (followLast : Bool) (links others : Nat) (place : Location)
    (names : List Segment)
    (finished : files.walk followLast links place names ≠ .error .manyLinks)
    (otherFinished : files.walk followLast others place names ≠ .error .manyLinks) :
    files.walk followLast links place names = files.walk followLast others place names := by
  rcases Nat.le_total links others with le | le
  · exact (walk_more files followLast place names le finished).symm
  · exact walk_more files followLast place names le otherFinished

/-! ### Parts of a walk -/

/-- What leads somewhere leads somewhere on the way. -/
theorem walk_part (files : Files) (links : Nat) (place : Location) (names rest : List Segment)
    (last : Location) (walked : files.walk true links place (names ++ rest) = .ok last) :
    ∃ middle, files.walk true links place names = .ok middle := by
  induction links, place, names using walk_induction generalizing rest with
  | nil links place => exact ⟨place, walk_nil ..⟩
  | cons links place name more ih deeper =>
      rw [List.cons_append, walk_cons] at walked
      rw [walk_cons]
      cases found : files.turn place name with
      | stop cause => simp [found] at walked
      | go next => exact ih next rest (by simpa [found] using walked)
      | through target =>
          cases links with
          | zero => simp [found, enter] at walked
          | succ links =>
              have onward : files.walk true links (startOf place target).1
                  ((startOf place target).2 ++ more ++ rest) = .ok last := by
                simpa [found, enter] using walked
              simpa [enter] using deeper links _ _ (Nat.lt_succ_self links) rest onward

/-- A walk goes on from where its first part led, if no more links are needed there. -/
theorem walk_onward (files : Files) (links : Nat) (place middle : Location)
    (names rest : List Segment) (answer : Except Cause Location)
    (walked : files.walk true links place names = .ok middle)
    (onward : ∀ links, files.walk true links middle rest = answer) :
    files.walk true links place (names ++ rest) = answer := by
  induction links, place, names using walk_induction with
  | nil links place =>
      rw [walk_nil] at walked
      obtain rfl := Except.ok.inj walked
      exact onward links
  | cons links place name more ih deeper =>
      rw [walk_cons] at walked
      rw [List.cons_append, walk_cons]
      cases found : files.turn place name with
      | stop cause => simp [found] at walked
      | go next => exact ih next (by simpa [found] using walked)
      | through target =>
          cases links with
          | zero => simp [found, enter] at walked
          | succ links =>
              have entered : files.walk true links (startOf place target).1
                  ((startOf place target).2 ++ more) = .ok middle := by
                simpa [found, enter] using walked
              simpa [enter, List.append_assoc] using
                deeper links _ _ (Nat.lt_succ_self links) entered

end StorefrontSurvey.Files
