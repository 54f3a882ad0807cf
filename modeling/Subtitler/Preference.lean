import Subtitler.Subtitle.Track

/-!
# Preferences

The lasting wish of the user, and how it is brought together with a request to play something.
-/

namespace Subtitler

/-- No subtitles, or those of a language. -/
inductive Preference
  | disabled
  | language (code : String)
deriving DecidableEq, Repr, Inhabited

/-- A request to play something. -/
structure PlayRequest where
  url : String
  quality : Option String
  subtitlesEnabled : Bool
  subtitle : Option Track
  available : List Track
deriving DecidableEq, Repr

namespace Preference

/-- The preference for a language, if one is given. -/
def ofLanguage : Option String → Preference
  | some code => language code
  | none => disabled

/-- The preferred language. -/
def language? : Preference → Option String
  | disabled => none
  | language code => some code

/-- A preference in words. -/
def display : Preference → String
  | disabled => "disabled"
  | language code => s!"preferred language {code}"

/-- The track to begin with. Subtitles that the request or the preference disables stay off;
otherwise the request's own track comes before the preferred language. -/
def resolve (preference : Preference) (request : PlayRequest) : Track :=
  if !request.subtitlesEnabled then .none
  else
    match preference with
    | disabled => .none
    | language code => request.subtitle.getD (Track.ofLanguage request.available code)

end Preference

end Subtitler
