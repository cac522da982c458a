import MailTemplate.Text.UpperCase

/-!
# Settings

* `Settings`: what a template takes from its surroundings;
* `Settings.ofTexts`: the settings given by texts, each with a default for an absent or empty one.
-/

namespace MailTemplate

/-- The year, and the texts that an installation may choose. -/
structure Settings where
  year : Int
  /-- The image shown where a block names none. -/
  placeholderImage : String
  /-- The company named in footers. -/
  company : String
  logLevel : String

namespace Settings

/-- The image shown where neither a block nor the installation names one. -/
def defaultPlaceholderImage : String := "https://placehold.co/560x200/e2e8f0/64748b?text=Image"

/-- The company named where the installation names none. -/
def defaultCompany : String := "Company"

/-- The level of messages where the installation names none. -/
def defaultLogLevel : String := "INFO"

/-- A text, unless it is absent or empty. -/
def textOr (default : String) : Option String → String
  | some "" => default
  | some s => s
  | none => default

/-- The settings given by texts; the level is written in capitals. -/
def ofTexts (year : Int) (image company logLevel : Option String) : Settings where
  year := year
  placeholderImage := textOr defaultPlaceholderImage image
  company := textOr defaultCompany company
  logLevel := Text.upperCase (textOr defaultLogLevel logLevel)

/-- The text of a footer that says nothing else. -/
def footerText (settings : Settings) : String :=
  "© " ++ toString settings.year ++ " " ++ settings.company

end Settings
end MailTemplate
