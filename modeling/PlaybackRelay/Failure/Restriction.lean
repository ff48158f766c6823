/-!
Contents that may not be played, known by the messages that players show for them.
-/
namespace PlaybackRelay.Failure

/-- Why a content was refused. -/
inductive Restriction where
  | ageRating
  | geoblock
  | commercial
  | endDate
  | startDate
  | journalistic
  | legal
  | unknown
deriving DecidableEq, Repr

namespace Restriction

def all : List Restriction := [
  .ageRating, .geoblock, .commercial, .endDate, .startDate, .journalistic, .legal, .unknown]

def code : Restriction → String
  | .ageRating => "AGERATING"
  | .geoblock => "GEOBLOCK"
  | .commercial => "COMMERCIAL"
  | .endDate => "ENDDATE"
  | .startDate => "STARTDATE"
  | .journalistic => "JOURNALISTIC"
  | .legal => "LEGAL"
  | .unknown => "UNKNOWN"

/-- The messages for a restriction, in English, German, French, Italian and Romansh. -/
def messages : Restriction → List String
  | .ageRating => [
    "To protect children, this content is only available between 10PM and 5AM.",
    "To protect children, this content is only available between 8PM and 6AM.",
    "Dieser Inhalt ist aus Jugendschutzgründen nur zwischen 22 und 5 Uhr verfügbar.",
    "Dieser Inhalt ist aus Jugendschutzgründen nur zwischen 20 und 6 Uhr verfügbar.",
    "Afin de protéger les mineurs, ce contenu n'est visible qu'entre 22h et 5h.",
    "Afin de protéger les mineurs, ce contenu n'est visible qu'entre 20h et 6h.",
    "Per proteggere i minori, questo contenuto è disponibile solo tra le 22 e le 5.",
    "Per proteggere i minori, questo contenuto è disponibile solo tra le 20 e le 6.",
    "Per proteger uffants, è quest cuntegn mo disponibel tranter las 22 e las 5.",
    "Per proteger uffants, è quest cuntegn mo disponibel tranter las 20 e las 6."]
  | .geoblock => [
    "This content is not available outside Switzerland.",
    "Dieser Inhalt ist ausserhalb der Schweiz nicht verfügbar.",
    "Ce contenu n'est pas disponible hors de Suisse.",
    "Questo contenuto non è disponibile fuori dalla Svizzera.",
    "Quest cuntegn n'è betg disponibel ordaifer la Svizra."]
  | .commercial => [
    "This commercial content is not available.",
    "Dieser Werbeinhalt ist nicht verfügbar.",
    "Ce contenu commercial n'est pas disponible.",
    "Questo contenuto commerciale non è disponibile.",
    "Quest cuntegn commerzial n'è betg disponibel."]
  | .endDate => [
    "This content is not available anymore.",
    "Dieser Inhalt ist nicht mehr verfügbar.",
    "Ce contenu n'est plus disponible.",
    "Questo contenuto non è più disponibile.",
    "Quest cuntegn n'è betg pli disponibel."]
  | .startDate => [
    "This content is not available yet.",
    "Dieser Inhalt ist noch nicht verfügbar.",
    "Ce contenu n'est pas encore disponible.",
    "Questo contenuto non è ancora disponibile.",
    "Quest cuntegn n'è betg anc disponibel."]
  | .journalistic => [
    "This content is temporarily unavailable for journalistic reasons.",
    "Dieser Inhalt ist aus publizistischen Gründen vorübergehend nicht verfügbar.",
    "Ce contenu est temporairement indisponible pour des raisons éditoriales.",
    "Questo contenuto è temporaneamente non disponibile per motivi editoriali.",
    "Quest cuntegn n'è temporarmain betg disponibel per motivs publicistics."]
  | .legal => [
    "This content is not available due to legal restrictions.",
    "Dieser Inhalt ist aus rechtlichen Gründen nicht verfügbar.",
    "Pour des raisons juridiques, ce contenu n'est pas disponible.",
    "Il contenuto non è fruibile a causa di restrizioni legali.",
    "Quest cuntegn n'è betg disponibel per motivs giuridics."]
  | .unknown => [
    "This content is not available.",
    "Dieser Inhalt ist nicht verfügbar.",
    "Ce contenu n'est actuellement pas disponible.",
    "Questo contenuto non è disponibile.",
    "Quest cuntegn n'è betg disponibel."]

/-- Only a message of the table, character by character, tells a restriction. -/
def ofMessage? (message : String) : Option Restriction :=
  all.find? fun restriction => restriction.messages.contains message

end Restriction
end PlaybackRelay.Failure
