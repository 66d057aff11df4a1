import Specimen.Dates.Scan

/-! Which strings count as dates. -/
namespace Specimen.Dates
open Text

/-- The accepted ways of writing a date. -/
structure Formats where
  internet : Bool
  patterns : List (List Item)

/-- The word that stands for internet dates in a list of formats, whatever its case. -/
def internetWord : String := "rfc3339"

def isInternetWord (format : String) : Bool :=
  format.toList.map Char.toLower == internetWord.toList

/-- A pattern with an invalid specifier accepts nothing and is left out. -/
def Formats.ofList (formats : List String) : Formats where
  internet := formats.any isInternetWord
  patterns := (formats.filter (!isInternetWord ·)).filterMap patternItems?

/-- A date has a digit, and is covered by one of the formats once the blanks around it are gone. -/
def Formats.accepts (formats : Formats) (s : String) : Bool :=
  let text := trim s.toList
  text.any isAsciiDigit &&
    ((formats.internet && (scanInternetDate text).any Fields.isMoment) ||
      formats.patterns.any fun items => (scanItems items {} text).any Fields.isDate)

end Specimen.Dates
