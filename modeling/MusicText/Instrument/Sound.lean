import MusicText.Fault

/-!
Contract: the sounds that a score gives to program numbers.

Owns: the table of sounds by program.

Does not own: the names that tokens use; see `MusicText.Instrument.Name`.
-/

namespace MusicText.Instrument

/-- A sound of a score: its kind, the program that asked for it, and its name. -/
structure Sound where
  kind : Text
  program : Int
  name : Text
  deriving DecidableEq, Repr

/-- The sounds of the programs 0 to 127: first and last program, kind, name. -/
def soundTable : List (Nat × Nat × String × String) :=
  [(0, 1, "Piano", "Piano"), (2, 2, "ElectricPiano", "Electric Piano"), (3, 3, "Piano", "Piano"),
   (4, 5, "ElectricPiano", "Electric Piano"), (6, 6, "Harpsichord", "Harpsichord"),
   (7, 7, "Clavichord", "Clavichord"), (8, 8, "Celesta", "Celesta"),
   (9, 10, "Glockenspiel", "Glockenspiel"), (11, 11, "Vibraphone", "Vibraphone"),
   (12, 12, "Marimba", "Marimba"), (13, 13, "Xylophone", "Xylophone"),
   (14, 14, "TubularBells", "Tubular Bells"), (15, 15, "Dulcimer", "Dulcimer"),
   (16, 18, "ElectricOrgan", "Electric Organ"), (19, 19, "PipeOrgan", "Pipe Organ"),
   (20, 20, "ReedOrgan", "Reed Organ"), (21, 21, "Accordion", "Accordion"),
   (22, 22, "Harmonica", "Harmonica"), (23, 23, "Accordion", "Accordion"),
   (24, 25, "AcousticGuitar", "Acoustic Guitar"), (26, 31, "ElectricGuitar", "Electric Guitar"),
   (32, 32, "AcousticBass", "Acoustic Bass"), (33, 34, "ElectricBass", "Electric Bass"),
   (35, 35, "FretlessBass", "Fretless Bass"), (36, 39, "ElectricBass", "Electric Bass"),
   (40, 40, "Violin", "Violin"), (41, 41, "Viola", "Viola"),
   (42, 42, "Violoncello", "Violoncello"), (43, 43, "Contrabass", "Contrabass"),
   (44, 45, "StringInstrument", "StringInstrument"), (46, 46, "Harp", "Harp"),
   (47, 47, "Timpani", "Timpani"), (48, 51, "StringInstrument", "StringInstrument"),
   (52, 52, "Choir", "Choir"), (53, 54, "Vocalist", "Voice"), (55, 55, "Sampler", "Sampler"),
   (56, 56, "Trumpet", "Trumpet"), (57, 57, "Trombone", "Trombone"), (58, 58, "Tuba", "Tuba"),
   (59, 59, "Trumpet", "Trumpet"), (60, 60, "Horn", "Horn"), (61, 63, "BrassInstrument", "Brass"),
   (64, 64, "SopranoSaxophone", "Soprano Saxophone"), (65, 65, "AltoSaxophone", "Alto Saxophone"),
   (66, 66, "TenorSaxophone", "Tenor Saxophone"),
   (67, 67, "BaritoneSaxophone", "Baritone Saxophone"), (68, 68, "Oboe", "Oboe"),
   (69, 69, "EnglishHorn", "English Horn"), (70, 70, "Bassoon", "Bassoon"),
   (71, 71, "Clarinet", "Clarinet"), (72, 72, "Piccolo", "Piccolo"), (73, 73, "Flute", "Flute"),
   (74, 74, "Recorder", "Recorder"), (75, 76, "PanFlute", "Pan Flute"),
   (77, 77, "Shakuhachi", "Shakuhachi"), (78, 78, "Whistle", "Whistle"),
   (79, 79, "Ocarina", "Ocarina"), (80, 103, "Sampler", "Sampler"), (104, 104, "Sitar", "Sitar"),
   (105, 105, "Banjo", "Banjo"), (106, 106, "Shamisen", "Shamisen"), (107, 107, "Koto", "Koto"),
   (108, 108, "Kalimba", "Kalimba"), (109, 109, "Bagpipes", "Bagpipes"),
   (110, 110, "Violin", "Violin"), (111, 111, "Shehnai", "Shehnai"),
   (112, 112, "Glockenspiel", "Glockenspiel"), (113, 113, "Agogo", "Agogo"),
   (114, 114, "SteelDrum", "Steel Drum"), (115, 115, "Woodblock", "Woodblock"),
   (116, 116, "Taiko", "Taiko"), (117, 117, "TomTom", "Tom-Tom"),
   (118, 127, "Sampler", "Sampler")]

namespace Sound

def ofProgram (program : Int) : Except Fault Sound :=
  match soundTable.find? fun row => (row.1 : Int) ≤ program ∧ program ≤ row.2.1 with
  | some row => .ok ⟨row.2.2.1.toText, program, row.2.2.2.toText⟩
  | none => .error (.noSound program)

end Sound

end MusicText.Instrument
