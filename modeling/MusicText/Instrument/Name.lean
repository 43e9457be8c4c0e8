import MusicText.Fault

/-!
Contract: the names of instruments.

Owns: the General MIDI names with their program numbers, aliases included, and
look-up by name and by number.

Does not own: the sound that a score gives a program; see `MusicText.Instrument.Sound`.

The canonical name of a program is the one that is listed first.
-/

namespace MusicText.Instrument

open MusicText.Text

/-- Instrument names and aliases with their program numbers, as listed. -/
def programTable : List (String × Nat) :=
  [("PIANO", 0), ("ACOUSTIC_GRAND", 0), ("BRIGHT_ACOUSTIC", 1), ("ELECTRIC_GRAND", 2),
   ("HONKEY_TONK", 3), ("ELECTRIC_PIANO", 4), ("ELECTRIC_PIANO_1", 4), ("ELECTRIC_PIANO_2", 5),
   ("HARPSICHORD", 6), ("CLAVINET", 7), ("CELESTA", 8), ("GLOCKENSPIEL", 9), ("MUSIC_BOX", 10),
   ("VIBRAPHONE", 11), ("MARIMBA", 12), ("XYLOPHONE", 13), ("TUBULAR_BELLS", 14),
   ("DULCIMER", 15), ("DRAWBAR_ORGAN", 16), ("PERCUSSIVE_ORGAN", 17), ("ROCK_ORGAN", 18),
   ("CHURCH_ORGAN", 19), ("REED_ORGAN", 20), ("ACCORDIAN", 21), ("ACCORDION", 21),
   ("HARMONICA", 22), ("TANGO_ACCORDIAN", 23), ("GUITAR", 24), ("NYLON_STRING_GUITAR", 24),
   ("STEEL_STRING_GUITAR", 25), ("ELECTRIC_JAZZ_GUITAR", 26), ("ELECTRIC_CLEAN_GUITAR", 27),
   ("ELECTRIC_MUTED_GUITAR", 28), ("OVERDRIVEN_GUITAR", 29), ("DISTORTION_GUITAR", 30),
   ("GUITAR_HARMONICS", 31), ("ACOUSTIC_BASS", 32), ("ELECTRIC_BASS_FINGER", 33),
   ("ELECTRIC_BASS_PICK", 34), ("FRETLESS_BASS", 35), ("SLAP_BASS_1", 36), ("SLAP_BASS_2", 37),
   ("SYNTH_BASS_1", 38), ("SYNTH_BASS_2", 39), ("VIOLIN", 40), ("VIOLA", 41), ("CELLO", 42),
   ("CONTRABASS", 43), ("TREMOLO_STRINGS", 44), ("PIZZICATO_STRINGS", 45),
   ("ORCHESTRAL_STRINGS", 46), ("TIMPANI", 47), ("STRING_ENSEMBLE_1", 48),
   ("STRING_ENSEMBLE_2", 49), ("SYNTH_STRINGS_1", 50), ("SYNTH_STRINGS_2", 51),
   ("CHOIR_AAHS", 52), ("VOICE_OOHS", 53), ("SYNTH_VOICE", 54), ("ORCHESTRA_HIT", 55),
   ("TRUMPET", 56), ("TROMBONE", 57), ("TUBA", 58), ("MUTED_TRUMPET", 59), ("FRENCH_HORN", 60),
   ("BRASS_SECTION", 61), ("SYNTH_BRASS_1", 62), ("SYNTH_BRASS_2", 63), ("SOPRANO_SAX", 64),
   ("ALTO_SAX", 65), ("TENOR_SAX", 66), ("BARITONE_SAX", 67), ("OBOE", 68), ("ENGLISH_HORN", 69),
   ("BASSOON", 70), ("CLARINET", 71), ("PICCOLO", 72), ("FLUTE", 73), ("RECORDER", 74),
   ("PAN_FLUTE", 75), ("BLOWN_BOTTLE", 76), ("SHAKUHACHI", 77), ("WHISTLE", 78), ("OCARINA", 79),
   ("LEAD_SQUARE", 80), ("SQUARE", 80), ("LEAD_SAWTOOTH", 81), ("SAWTOOTH", 81),
   ("LEAD_CALLIOPE", 82), ("CALLIOPE", 82), ("LEAD_CHIFF", 83), ("CHIFF", 83),
   ("LEAD_CHARANG", 84), ("CHARANG", 84), ("LEAD_VOICE", 85), ("VOICE", 85), ("LEAD_FIFTHS", 86),
   ("FIFTHS", 86), ("LEAD_BASSLEAD", 87), ("BASSLEAD", 87), ("PAD_NEW_AGE", 88), ("NEW_AGE", 88),
   ("PAD_WARM", 89), ("WARM", 89), ("PAD_POLYSYNTH", 90), ("POLYSYNTH", 90), ("PAD_CHOIR", 91),
   ("CHOIR", 91), ("PAD_BOWED", 92), ("BOWED", 92), ("PAD_METALLIC", 93), ("METALLIC", 93),
   ("PAD_HALO", 94), ("HALO", 94), ("PAD_SWEEP", 95), ("SWEEP", 95), ("FX_RAIN", 96),
   ("RAIN", 96), ("FX_SOUNDTRACK", 97), ("SOUNDTRACK", 97), ("FX_CRYSTAL", 98), ("CRYSTAL", 98),
   ("FX_ATMOSPHERE", 99), ("ATMOSPHERE", 99), ("FX_BRIGHTNESS", 100), ("BRIGHTNESS", 100),
   ("FX_GOBLINS", 101), ("GOBLINS", 101), ("FX_ECHOES", 102), ("ECHOES", 102), ("FX_SCI_FI", 103),
   ("SCI_FI", 103), ("SITAR", 104), ("BANJO", 105), ("SHAMISEN", 106), ("KOTO", 107),
   ("KALIMBA", 108), ("BAGPIPE", 109), ("FIDDLE", 110), ("SHANAI", 111), ("TINKLE_BELL", 112),
   ("AGOGO", 113), ("STEEL_DRUMS", 114), ("WOODBLOCK", 115), ("TAIKO_DRUM", 116),
   ("MELODIC_TOM", 117), ("SYNTH_DRUM", 118), ("REVERSE_CYMBAL", 119), ("GUITAR_FRET_NOISE", 120),
   ("BREATH_NOISE", 121), ("SEASHORE", 122), ("BIRD_TWEET", 123), ("TELEPHONE_RING", 124),
   ("HELICOPTER", 125), ("APPLAUSE", 126), ("GUNSHOT", 127)]

/-- Instrument names as texts with their program numbers, as listed. -/
def programs : List (Text × Nat) :=
  programTable.map fun entry => (entry.1.toText, entry.2)

/-- The program of an instrument name, whose case matters. -/
def programOf (name : Text) : Except Fault Nat :=
  match programs.lookup name with
  | some program => .ok program
  | none => .error (.unknownInstrument name)

/-- The canonical name of a program. -/
def canonicalName? (program : Int) : Option Text :=
  (programs.find? fun entry => (entry.2 : Int) = program).map Prod.fst

/-- An instrument: a canonical name and its program. -/
structure Entry where
  name : Text
  program : Nat
  deriving DecidableEq, Repr

def ofProgram (program : Int) : Except Fault Entry :=
  match canonicalName? program with
  | some name => .ok ⟨name, program.toNat⟩
  | none => .error (.unknownProgram program)

/-- The instrument with a name or an alias. -/
def ofName (name : Text) : Except Fault Entry :=
  match programOf name with
  | .ok program => ofProgram program
  | .error fault => .error fault

end MusicText.Instrument
