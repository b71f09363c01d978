/-!
# Character names: marks

The names of the notations and scripts from U+1C000 to U+1EFFF, in the notation of the table of
character names.
-/

namespace Rubric.Text.CharacterName

/-- The names of the notations and scripts from U+1C000 to U+1EFFF. -/
def marks : String := "
@1CF00 0ZNAMENNY_COMBINING_MARK_GORAZDO_NIZKO_S_KRYZHEM_ON_LEFT 3NIZKO_S_KRYZHEM_ON_LEFT
3TSATA_ON_LEFT 3GORAZDO_NIZKO_ON_LEFT 3NIZKO_ON_LEFT 3SREDNE_ON_LEFT 3MALO_POVYSHE_ON_LEFT
3POVYSHE_ON_LEFT 3VYSOKO_ON_LEFT 3MALO_POVYSHE_S_KHOKHLOM_ON_LEFT 3POVYSHE_S_KHOKHLOM_ON_LEFT
3VYSOKO_S_KHOKHLOM_ON_LEFT 3GORAZDO_NIZKO_S_KRYZHEM_ON_RIGHT 3NIZKO_S_KRYZHEM_ON_RIGHT
3TSATA_ON_RIGHT 3GORAZDO_NIZKO_ON_RIGHT 3NIZKO_ON_RIGHT 3SREDNE_ON_RIGHT 3MALO_POVYSHE_ON_RIGHT
3POVYSHE_ON_RIGHT 3VYSOKO_ON_RIGHT 3MALO_POVYSHE_S_KHOKHLOM_ON_RIGHT 3POVYSHE_S_KHOKHLOM_ON_RIGHT
3VYSOKO_S_KHOKHLOM_ON_RIGHT 3TSATA_S_KRYZHEM 3MALO_POVYSHE_S_KRYZHEM 3STRANNO_MALO_POVYSHE
3POVYSHE_S_KRYZHEM 4STRANNO 3VYSOKO_S_KRYZHEM 3MALO_POVYSHE_STRANNO 3GORAZDO_VYSOKO 3ZELO 3ON
3RAVNO 3TIKHAYA 3BORZAYA 3UDARKA 3PODVERTKA 3LOMKA 3KUPNAYA 3KACHKA 3ZEVOK 3SKOBA 3RAZSEKA
3KRYZH_ON_LEFT @1CF30 2TONAL_RANGE_MARK_MRACHNO 5SVETLO 5TRESVETLO 2MARK_ZADERZHKA
3DEMESTVENNY_ZADERZHKA 3OTSECHKA 3PODCHASHIE 4WITH_VERTICAL_STROKE 3CHASHKA 4POLNAYA 3OBLACHKO
3SOROCHYA_NOZHKA 3TOCHKA 3DVOETOCHIE 2ATTACHING_VERTICAL_OMET 2MARK_CURVED_OMET 3KRYZH
2LOWER_TONAL_RANGE_INDICATOR 1PRIZNAK_MODIFIER_LEVEL-2 + 3DIRECTION_FLIP 3KRYZH 3ROG @1CF50
1NEUME_KRYUK 3TIKHY 2PARAKLIT 2DVA_V_CHELNU 2KLYUCH 2ZANOZHEK 2STOPITSA 3S_OCHKOM 2PEREVODKA
3NEPOSTOYANNAYA 2STOPITSA_WITH_SOROCHYA_NOZHKA 2CHELYUSTKA 2PALKA 2ZAPYATAYA 2GOLUBCHIK_BORZY
3TIKHY 3MRACHNY 3SVETLY 3TRESVETLY 2VRAKHIYA_PROSTAYA 3MRACHNAYA 3SVETLAYA 3TRESVETLAYA
3KLYUCHEVAYA_PROSTAYA 4MRACHNAYA 4SVETLAYA 4TRESVETLAYA 2DOUBLE_ZAPYATAYA 2REVERSED_CHELYUSTKA
2DERBITSA 2KHAMILO 2CHASHKA 2PODCHASHIE 2SKAMEYTSA_MRACHNAYA 3SVETLAYA 3TRESVETLAYA 3TIKHAYA
2DEMESTVENNY_KLYUCH 2SKAMEYTSA_KLYUCHEVAYA_SVETLAYA 3KLYUCHENEPOSTOYANNAYA 3KLYUCHEVAYA_TIKHAYA
3DVOECHELNAYA_PROSTAYA 4SVETLAYA 4NEPOSTOYANNAYA 4KLYUCHEVAYA 2SLOZHITIE 3S_ZAPYATOY 3ZAKRYTOE
3S_KRYZHEM 2KRYZH 2ROG 2FITA 2KOBYLA 2ZMEYTSA 2STATYA 3S_ZAPYATOY 4KRYZHEM 4ZAPYATOY_I_KRYZHEM
4KRYZHEM_I_ZAPYATOY 3ZAKRYTAYA 4S_ZAPYATOY 3S_ROGOM 4DVUMYA_ZAPYATYMI 4ZAPYATOY_I_PODCHASHIEM
2POLKULIZMY 2STATYA_NEPOSTOYANNAYA 2STRELA_PROSTAYA 3MRACHNOTIKHAYA 3KRYZHEVAYA 3POLUPOVODNAYA
3POVODNAYA 3NEPOSTOYANNAYA 3KLYUCHEPOVODNAYA 3KLYUCHENEPOSTOYANNAYA 3TIKHAYA_PUTNAYA 3DVOECHELNAYA
3DVOECHELNOKRYZHEVAYA 3DVOECHELNOPOVODNAYA 3DVOECHELNAYA_KLYUCHEVAYA
3DVOECHELNOPOVODNAYA_KLYUCHEVAYA 3GROMNAYA_WITH_SINGLE_ZAPYATAYA
3GROMOPOVODNAYA_WITH_SINGLE_ZAPYATAYA 3GROMNAYA 3GROMOPOVODNAYA 4WITH_DOUBLE_ZAPYATAYA
3GROMOKRYZHEVAYA 4POVODNAYA 2MECHIK 3POVODNY 3KLYUCHEVOY 3KLYUCHEPOVODNY 3KLYUCHENEPOSTOYANNY
2STRELA_TRYASOGLASNAYA 3TRYASOPOVODNAYA 3TRYASOSTRELNAYA 2OSOKA 3SVETLAYA 3TRESVETLAYA
3KRYUKOVAYA_SVETLAYA 3KLYUCHEVAYA_SVETLAYA 4NEPOSTOYANNAYA 2STRELA_KRYUKOVAYA 4POVODNAYA
4GROMNAYA_WITH_SINGLE_ZAPYATAYA 4GROMOPOVODNAYA_WITH_SINGLE_ZAPYATAYA 4GROMNAYA 4GROMOPOVODNAYA
5WITH_DOUBLE_ZAPYATAYA 4GROMOKRYZHEVAYA 5POVODNAYA 4TRYASKA 2KUFISMA 2OBLAKO 2DUDA 2NEMKA 2PAUK
@1D000 0BYZANTINE_MUSICAL_SYMBOL_PSILI 3DASEIA 3PERISPOMENI 3OXEIA_EKFONITIKON 4DIPLI
3VAREIA_EKFONITIKON 4DIPLI 3KATHISTI 3SYRMATIKI 3PARAKLITIKI 3YPOKRISIS 4DIPLI 3KREMASTI
3APESO_EKFONITIKON 3EXO_EKFONITIKON 3TELEIA 3KENTIMATA 3APOSTROFOS 4DIPLI 3SYNEVMA 3THITA
3OLIGON_ARCHAION 3GORGON_ARCHAION 3PSILON 3CHAMILON 3VATHY 3ISON_ARCHAION 3KENTIMA_ARCHAION
3KENTIMATA_ARCHAION 3SAXIMATA 3PARICHON 3STAVROS_APODEXIA 3OXEIAI_ARCHAION 3VAREIAI_ARCHAION
3APODERMA_ARCHAION 3APOTHEMA 3KLASMA 3REVMA 3PIASMA_ARCHAION 3TINAGMA 3ANATRICHISMA 3SEISMA
3SYNAGMA_ARCHAION 4META_STAVROU 3OYRANISMA_ARCHAION 3THEMA 3LEMOI 3DYO 3TRIA 3TESSERA 3KRATIMATA
3APESO_EXO_NEO 3FTHORA_ARCHAION 3IMIFTHORA 3TROMIKON_ARCHAION 3KATAVA_TROMIKON 3PELASTON
3PSIFISTON 3KONTEVMA 3CHOREVMA_ARCHAION 3RAPISMA 3PARAKALESMA_ARCHAION 3PARAKLITIKI_ARCHAION
3ICHADIN 3NANA 3PETASMA 3KONTEVMA_ALLO 3TROMIKON_ALLO 3STRAGGISMATA 3GRONTHISMATA 3ISON_NEO
3OLIGON_NEO 3OXEIA_NEO 3PETASTI 3KOUFISMA 3PETASTOKOUFISMA 3KRATIMOKOUFISMA 3PELASTON_NEO
3KENTIMATA_NEO_ANO 3KENTIMA_NEO_ANO 3YPSILI 3APOSTROFOS_NEO 3APOSTROFOI_SYNDESMOS_NEO 3YPORROI
3KRATIMOYPORROON 3ELAFRON 3CHAMILI 3MIKRON_ISON 3VAREIA_NEO 3PIASMA_NEO 3PSIFISTON_NEO 3OMALON
3ANTIKENOMA 3LYGISMA 3PARAKLITIKI_NEO 3PARAKALESMA_NEO 3ETERON_PARAKALESMA 3KYLISMA
3ANTIKENOKYLISMA 3TROMIKON_NEO 3EKSTREPTON 3SYNAGMA_NEO 3SYRMA 3CHOREVMA_NEO 3EPEGERMA 3SEISMA_NEO
3XIRON_KLASMA 3TROMIKOPSIFISTON 3PSIFISTOLYGISMA 3TROMIKOLYGISMA 3TROMIKOPARAKALESMA
3PSIFISTOPARAKALESMA 3TROMIKOSYNAGMA 3PSIFISTOSYNAGMA 3GORGOSYNTHETON 3ARGOSYNTHETON
3ETERON_ARGOSYNTHETON 3OYRANISMA_NEO 3THEMATISMOS_ESO 4EXO 3THEMA_APLOUN 3THES_KAI_APOTHES
3KATAVASMA 3ENDOFONON 3YFEN_KATO 4ANO 3STAVROS 3KLASMA_ANO 3DIPLI_ARCHAION 3KRATIMA_ARCHAION 4ALLO
4NEO 3APODERMA_NEO 3APLI 3DIPLI 3TRIPLI 3TETRAPLI 3KORONIS 3LEIMMA_ENOS_CHRONOU 4DYO_CHRONON
4TRION_CHRONON 4TESSARON_CHRONON 4IMISEOS_CHRONOU 3GORGON_NEO_ANO 4PARESTIGMENON_ARISTERA 5DEXIA
3DIGORGON 4PARESTIGMENON_ARISTERA_KATO 6ANO 5DEXIA 3TRIGORGON 3ARGON 3IMIDIARGON 3DIARGON
3AGOGI_POLI_ARGI 4ARGOTERI 4ARGI 4METRIA 4MESI 4GORGI 4GORGOTERI 4POLI_GORGI
3MARTYRIA_PROTOS_ICHOS 4ALLI_PROTOS_ICHOS 4DEYTEROS_ICHOS 4ALLI_DEYTEROS_ICHOS 4TRITOS_ICHOS
4TRIFONIAS 4TETARTOS_ICHOS 5LEGETOS_ICHOS 4LEGETOS_ICHOS 4PLAGIOS_ICHOS 3ISAKIA_TELOUS_ICHIMATOS
3APOSTROFOI_TELOUS_ICHIMATOS 3FANEROSIS_TETRAFONIAS 4MONOFONIAS 4DIFONIAS 3MARTYRIA_VARYS_ICHOS
4PROTOVARYS_ICHOS 4PLAGIOS_TETARTOS_ICHOS 3GORTHMIKON_N_APLOUN 5DIPLOUN 3ENARXIS_KAI_FTHORA_VOU
3IMIFONON 3IMIFTHORON 3FTHORA_ARCHAION_DEYTEROU_ICHOU 4DIATONIKI_PA 5NANA 4NAOS_ICHOS
4DIATONIKI_DI 4SKLIRON_DIATONON_DI 4DIATONIKI_KE 5ZO 5NI_KATO 6ANO 4MALAKON_CHROMA_DIFONIAS
6MONOFONIAS 3FHTORA_SKLIRON_CHROMA_VASIS 3FTHORA_SKLIRON_CHROMA_SYNAFI 4NENANO 3CHROA_ZYGOS
4KLITON 4SPATHI 3FTHORA_I_YFESIS_TETARTIMORION 4ENARMONIOS_ANTIFONIA 3YFESIS_TRITIMORION
3DIESIS_TRITIMORION 4TETARTIMORION 4APLI_DYO_DODEKATA 4MONOGRAMMOS_TESSERA_DODEKATA
4DIGRAMMOS_EX_DODEKATA 4TRIGRAMMOS_OKTO_DODEKATA 3YFESIS_APLI_DYO_DODEKATA
4MONOGRAMMOS_TESSERA_DODEKATA 4DIGRAMMOS_EX_DODEKATA 4TRIGRAMMOS_OKTO_DODEKATA 3GENIKI_DIESIS
4YFESIS 3DIASTOLI_APLI_MIKRI 5MEGALI 4DIPLI 4THESEOS 3SIMANSIS_THESEOS 5DISIMOU 5TRISIMOU
5TETRASIMOU 4ARSEOS 5DISIMOU 5TRISIMOU 5TETRASIMOU 3DIGRAMMA_GG 3DIFTOGGOS_OU 3STIGMA 3ARKTIKO_PA
4VOU 4GA 4DI 4KE 4ZO 4NI 3KENTIMATA_NEO_MESO 3KENTIMA_NEO_MESO 3KENTIMATA_NEO_KATO
3KENTIMA_NEO_KATO 3KLASMA_KATO 3GORGON_NEO_KATO @1D100 0MUSICAL_SYMBOL_SINGLE_BARLINE
2DOUBLE_BARLINE 2FINAL_BARLINE 2REVERSE_FINAL_BARLINE 2DASHED_BARLINE 2SHORT_BARLINE
2LEFT_REPEAT_SIGN 2RIGHT_REPEAT_SIGN 2REPEAT_DOTS 2DAL_SEGNO 2DA_CAPO 2SEGNO 2CODA
2REPEATED_FIGURE-1 + + 2FERMATA 3BELOW 2BREATH_MARK 2CAESURA 2BRACE 2BRACKET 2ONE-LINE_STAFF
2TWO-LINE_STAFF 2THREE-LINE_STAFF 2FOUR-LINE_STAFF 2FIVE-LINE_STAFF 2SIX-LINE_STAFF
2SIX-STRING_FRETBOARD 2FOUR-STRING_FRETBOARD 2G_CLEF 4OTTAVA_ALTA 5BASSA 2C_CLEF 2F_CLEF
4OTTAVA_ALTA 5BASSA 2DRUM_CLEF-1 + @1D129 2MULTIPLE_MEASURE_REST 2DOUBLE_SHARP 3FLAT 2FLAT_UP
3DOWN 2NATURAL_UP 3DOWN 2SHARP_UP 3DOWN 2QUARTER_TONE_SHARP 4FLAT 2COMMON_TIME 2CUT_TIME
2OTTAVA_ALTA 3BASSA 2QUINDICESIMA_ALTA 3BASSA 2MULTI_REST 2WHOLE_REST 2HALF_REST 2QUARTER_REST
2EIGHTH_REST 2SIXTEENTH_REST 2THIRTY-SECOND_REST 2SIXTY-FOURTH_REST
2ONE_HUNDRED_TWENTY-EIGHTH_REST 2X_NOTEHEAD 2PLUS_NOTEHEAD 2CIRCLE_X_NOTEHEAD
2SQUARE_NOTEHEAD_WHITE 4BLACK 2TRIANGLE_NOTEHEAD_UP_WHITE 5BLACK 4LEFT_WHITE 5BLACK 4RIGHT_WHITE
5BLACK 4DOWN_WHITE 5BLACK 4UP_RIGHT_WHITE 6BLACK 2MOON_NOTEHEAD_WHITE 4BLACK
2TRIANGLE-ROUND_NOTEHEAD_DOWN_WHITE 5BLACK 2PARENTHESIS_NOTEHEAD 2VOID_NOTEHEAD 2NOTEHEAD_BLACK
2NULL_NOTEHEAD 2CLUSTER_NOTEHEAD_WHITE 4BLACK 2BREVE 2WHOLE_NOTE 2HALF_NOTE 2QUARTER_NOTE
2EIGHTH_NOTE 2SIXTEENTH_NOTE 2THIRTY-SECOND_NOTE 2SIXTY-FOURTH_NOTE
2ONE_HUNDRED_TWENTY-EIGHTH_NOTE 2COMBINING_STEM 3SPRECHGESANG_STEM 3TREMOLO-1 + +
2FINGERED_TREMOLO-1 + + 2COMBINING_AUGMENTATION_DOT 3FLAG-1 + + + + 2BEGIN_BEAM 2END_BEAM
2BEGIN_TIE 2END_TIE 2BEGIN_SLUR 2END_SLUR 2BEGIN_PHRASE 2END_PHRASE 2COMBINING_ACCENT 3STACCATO
3TENUTO 3STACCATISSIMO 3MARCATO 3MARCATO-STACCATO 3ACCENT-STACCATO 3LOURE 2ARPEGGIATO_UP 3DOWN
2COMBINING_DOIT 3RIP 3FLIP 3SMEAR 3BEND 3DOUBLE_TONGUE 3TRIPLE_TONGUE 2RINFORZANDO 2SUBITO 2Z
2PIANO 2MEZZO 2FORTE 2CRESCENDO 2DECRESCENDO 2GRACE_NOTE_SLASH 4NO_SLASH 2TR 2TURN 2INVERTED_TURN
2TURN_SLASH 3UP 2ORNAMENT_STROKE-1 + + + + + + + + 3STROKE-10 + 2HAUPTSTIMME 2NEBENSTIMME
2END_OF_STIMME 2DEGREE_SLASH 2COMBINING_DOWN_BOW 3UP_BOW 3HARMONIC 3SNAP_PIZZICATO 2PEDAL_MARK
3UP_MARK 2HALF_PEDAL_MARK 2GLISSANDO_UP 3DOWN 2WITH_FINGERNAILS 2DAMP 3ALL 2MAXIMA 2LONGA 2BREVIS
2SEMIBREVIS_WHITE 3BLACK 2MINIMA 3BLACK 2SEMIMINIMA_WHITE 3BLACK 2FUSA_WHITE 3BLACK
2LONGA_PERFECTA_REST 3IMPERFECTA_REST 2BREVIS_REST 2SEMIBREVIS_REST 2MINIMA_REST 2SEMIMINIMA_REST
2TEMPUS_PERFECTUM_CUM_PROLATIONE_PERFECTA 6IMPERFECTA 6PERFECTA_DIMINUTION-1
3IMPERFECTUM_CUM_PROLATIONE_PERFECTA 6IMPERFECTA 7DIMINUTION-1 + + 2CROIX 2GREGORIAN_C_CLEF
3F_CLEF 2SQUARE_B 2VIRGA 2PODATUS 2CLIVIS 2SCANDICUS 2CLIMACUS 2TORCULUS 2PORRECTUS 3FLEXUS
2SCANDICUS_FLEXUS 2TORCULUS_RESUPINUS 2PES_SUBPUNCTIS 2KIEVAN_C_CLEF 3END_OF_PIECE 3FINAL_NOTE
3RECITATIVE_MARK 3WHOLE_NOTE 3HALF_NOTE 3QUARTER_NOTE_STEM_DOWN 6UP 3EIGHTH_NOTE_STEM_DOWN 6UP
3FLAT_SIGN 2SORI 2KORON @1D200 0GREEK_VOCAL_NOTATION_SYMBOL-1 + + + + + + + + 3SYMBOL-10 + + + + +
+ + + + + + + + + 3SYMBOL-50 + + + + 1INSTRUMENTAL_NOTATION_SYMBOL-1 + 3SYMBOL-4 + 3SYMBOL-7 +
3SYMBOL-11 + + + 3SYMBOL-17 + + 3SYMBOL-23 + + + + 3SYMBOL-29 + 3SYMBOL-32 3SYMBOL-36 + + + +
3SYMBOL-42 + 3SYMBOL-45 3SYMBOL-47 + + + + + + + 0COMBINING_GREEK_MUSICAL_TRISEME 3TETRASEME
3PENTASEME 0GREEK_MUSICAL_LEIMMA @1D2E0 0MAYAN_NUMERAL_ZERO 2ONE 2TWO 2THREE 2FOUR 2FIVE 2SIX
2SEVEN 2EIGHT 2NINE 2TEN 2ELEVEN 2TWELVE 2THIRTEEN 2FOURTEEN 2FIFTEEN 2SIXTEEN 2SEVENTEEN
2EIGHTEEN 2NINETEEN @1D300 0MONOGRAM_FOR_EARTH 0DIGRAM_FOR_HEAVENLY_EARTH 2HUMAN_EARTH
2EARTHLY_HEAVEN 3HUMAN 2EARTH 0TETRAGRAM_FOR_CENTRE 2FULL_CIRCLE 2MIRED 2BARRIER 2KEEPING_SMALL
2CONTRARIETY 2ASCENT 2OPPOSITION 2BRANCHING_OUT 2DEFECTIVENESS_OR_DISTORTION 2DIVERGENCE
2YOUTHFULNESS 2INCREASE 2PENETRATION 2REACH 2CONTACT 2HOLDING_BACK 2WAITING 2FOLLOWING 2ADVANCE
2RELEASE 2RESISTANCE 2EASE 2JOY 2CONTENTION 2ENDEAVOUR 2DUTIES 2CHANGE 2DECISIVENESS
2BOLD_RESOLUTION 2PACKING 2LEGION 2CLOSENESS 2KINSHIP 2GATHERING 2STRENGTH 2PURITY 2FULLNESS
2RESIDENCE 2LAW_OR_MODEL 2RESPONSE 2GOING_TO_MEET 2ENCOUNTERS 2STOVE 2GREATNESS 2ENLARGEMENT
2PATTERN 2RITUAL 2FLIGHT 2VASTNESS_OR_WASTING 2CONSTANCY 2MEASURE 2ETERNITY 2UNITY 2DIMINISHMENT
2CLOSED_MOUTH 2GUARDEDNESS 2GATHERING_IN 2MASSING 2ACCUMULATION 2EMBELLISHMENT 2DOUBT 2WATCH
2SINKING 2INNER 2DEPARTURE 2DARKENING 2DIMMING 2EXHAUSTION 2SEVERANCE 2STOPPAGE 2HARDNESS
2COMPLETION 2CLOSURE 2FAILURE 2AGGRAVATION 2COMPLIANCE 2ON_THE_VERGE 2DIFFICULTIES 2LABOURING
2FOSTERING @1D360 0COUNTING_ROD_UNIT_DIGIT_ONE 4TWO 4THREE 4FOUR 4FIVE 4SIX 4SEVEN 4EIGHT 4NINE
2TENS_DIGIT_ONE 4TWO 4THREE 4FOUR 4FIVE 4SIX 4SEVEN 4EIGHT 4NINE 0IDEOGRAPHIC_TALLY_MARK_ONE 3TWO
3THREE 3FOUR 3FIVE 0TALLY_MARK_ONE 2FIVE @1D400 0MATHEMATICAL_BOLD_CAPITAL_A 3B 3C 3D 3E 3F 3G 3H
3I 3J 3K 3L 3M 3N 3O 3P 3Q 3R 3S 3T 3U 3V 3W 3X 3Y 3Z 2SMALL_A 3B 3C 3D 3E 3F 3G 3H 3I 3J 3K 3L 3M
3N 3O 3P 3Q 3R 3S 3T 3U 3V 3W 3X 3Y 3Z 1ITALIC_CAPITAL_A 3B 3C 3D 3E 3F 3G 3H 3I 3J 3K 3L 3M 3N 3O
3P 3Q 3R 3S 3T 3U 3V 3W 3X 3Y 3Z 2SMALL_A 3B 3C 3D 3E 3F 3G @1D456 3I 3J 3K 3L 3M 3N 3O 3P 3Q 3R
3S 3T 3U 3V 3W 3X 3Y 3Z 1BOLD_ITALIC_CAPITAL_A 4B 4C 4D 4E 4F 4G 4H 4I 4J 4K 4L 4M 4N 4O 4P 4Q 4R
4S 4T 4U 4V 4W 4X 4Y 4Z 3SMALL_A 4B 4C 4D 4E 4F 4G 4H 4I 4J 4K 4L 4M 4N 4O 4P 4Q 4R 4S 4T 4U 4V 4W
4X 4Y 4Z 1SCRIPT_CAPITAL_A @1D49E 3C 3D @1D4A2 3G @1D4A5 3J 3K @1D4A9 3N 3O 3P 3Q @1D4AE 3S 3T 3U
3V 3W 3X 3Y 3Z 2SMALL_A 3B 3C 3D @1D4BB 3F @1D4BD 3H 3I 3J 3K 3L 3M 3N @1D4C5 3P 3Q 3R 3S 3T 3U 3V
3W 3X 3Y 3Z 1BOLD_SCRIPT_CAPITAL_A 4B 4C 4D 4E 4F 4G 4H 4I 4J 4K 4L 4M 4N 4O 4P 4Q 4R 4S 4T 4U 4V
4W 4X 4Y 4Z 3SMALL_A 4B 4C 4D 4E 4F 4G 4H 4I 4J 4K 4L 4M 4N 4O 4P 4Q 4R 4S 4T 4U 4V 4W 4X 4Y 4Z
1FRAKTUR_CAPITAL_A 3B @1D507 3D 3E 3F 3G @1D50D 3J 3K 3L 3M 3N 3O 3P 3Q @1D516 3S 3T 3U 3V 3W 3X
3Y @1D51E 2SMALL_A 3B 3C 3D 3E 3F 3G 3H 3I 3J 3K 3L 3M 3N 3O 3P 3Q 3R 3S 3T 3U 3V 3W 3X 3Y 3Z
1DOUBLE-STRUCK_CAPITAL_A 3B @1D53B 3D 3E 3F 3G @1D540 3I 3J 3K 3L 3M @1D546 3O @1D54A 3S 3T 3U 3V
3W 3X 3Y @1D552 2SMALL_A 3B 3C 3D 3E 3F 3G 3H 3I 3J 3K 3L 3M 3N 3O 3P 3Q 3R 3S 3T 3U 3V 3W 3X 3Y
3Z 1BOLD_FRAKTUR_CAPITAL_A 4B 4C 4D 4E 4F 4G 4H 4I 4J 4K 4L 4M 4N 4O 4P 4Q 4R 4S 4T 4U 4V 4W 4X 4Y
4Z 3SMALL_A 4B 4C 4D 4E 4F 4G 4H 4I 4J 4K 4L 4M 4N 4O 4P 4Q 4R 4S 4T 4U 4V 4W 4X 4Y 4Z
1SANS-SERIF_CAPITAL_A 3B 3C 3D 3E 3F 3G 3H 3I 3J 3K 3L 3M 3N 3O 3P 3Q 3R 3S 3T 3U 3V 3W 3X 3Y 3Z
2SMALL_A 3B 3C 3D 3E 3F 3G 3H 3I 3J 3K 3L 3M 3N 3O 3P 3Q 3R 3S 3T 3U 3V 3W 3X 3Y 3Z
2BOLD_CAPITAL_A 4B 4C 4D 4E 4F 4G 4H 4I 4J 4K 4L 4M 4N 4O 4P 4Q 4R 4S 4T 4U 4V 4W 4X 4Y 4Z
3SMALL_A 4B 4C 4D 4E 4F 4G 4H 4I 4J 4K 4L 4M 4N 4O 4P 4Q 4R 4S 4T 4U 4V 4W 4X 4Y 4Z
2ITALIC_CAPITAL_A 4B 4C 4D 4E 4F 4G 4H 4I 4J 4K 4L 4M 4N 4O 4P 4Q 4R 4S 4T 4U 4V 4W 4X 4Y 4Z
3SMALL_A 4B 4C 4D 4E 4F 4G 4H 4I 4J 4K 4L 4M 4N 4O 4P 4Q 4R 4S 4T 4U 4V 4W 4X 4Y 4Z
2BOLD_ITALIC_CAPITAL_A 5B 5C 5D 5E 5F 5G 5H 5I 5J 5K 5L 5M 5N 5O 5P 5Q 5R 5S 5T 5U 5V 5W 5X 5Y 5Z
4SMALL_A 5B 5C 5D 5E 5F 5G 5H 5I 5J 5K 5L 5M 5N 5O 5P 5Q 5R 5S 5T 5U 5V 5W 5X 5Y 5Z
1MONOSPACE_CAPITAL_A 3B 3C 3D 3E 3F 3G 3H 3I 3J 3K 3L 3M 3N 3O 3P 3Q 3R 3S 3T 3U 3V 3W 3X 3Y 3Z
2SMALL_A 3B 3C 3D 3E 3F 3G 3H 3I 3J 3K 3L 3M 3N 3O 3P 3Q 3R 3S 3T 3U 3V 3W 3X 3Y 3Z
1ITALIC_SMALL_DOTLESS_I 4J @1D6A8 1BOLD_CAPITAL_ALPHA 3BETA 3GAMMA 3DELTA 3EPSILON 3ZETA 3ETA
3THETA 3IOTA 3KAPPA 3LAMDA 3MU 3NU 3XI 3OMICRON 3PI 3RHO 3THETA_SYMBOL 3SIGMA 3TAU 3UPSILON 3PHI
3CHI 3PSI 3OMEGA 2NABLA 2SMALL_ALPHA 3BETA 3GAMMA 3DELTA 3EPSILON 3ZETA 3ETA 3THETA 3IOTA 3KAPPA
3LAMDA 3MU 3NU 3XI 3OMICRON 3PI 3RHO 3FINAL_SIGMA 3SIGMA 3TAU 3UPSILON 3PHI 3CHI 3PSI 3OMEGA
2PARTIAL_DIFFERENTIAL 2EPSILON_SYMBOL 2THETA_SYMBOL 2KAPPA_SYMBOL 2PHI_SYMBOL 2RHO_SYMBOL
2PI_SYMBOL 1ITALIC_CAPITAL_ALPHA 3BETA 3GAMMA 3DELTA 3EPSILON 3ZETA 3ETA 3THETA 3IOTA 3KAPPA
3LAMDA 3MU 3NU 3XI 3OMICRON 3PI 3RHO 3THETA_SYMBOL 3SIGMA 3TAU 3UPSILON 3PHI 3CHI 3PSI 3OMEGA
2NABLA 2SMALL_ALPHA 3BETA 3GAMMA 3DELTA 3EPSILON 3ZETA 3ETA 3THETA 3IOTA 3KAPPA 3LAMDA 3MU 3NU 3XI
3OMICRON 3PI 3RHO 3FINAL_SIGMA 3SIGMA 3TAU 3UPSILON 3PHI 3CHI 3PSI 3OMEGA 2PARTIAL_DIFFERENTIAL
2EPSILON_SYMBOL 2THETA_SYMBOL 2KAPPA_SYMBOL 2PHI_SYMBOL 2RHO_SYMBOL 2PI_SYMBOL
1BOLD_ITALIC_CAPITAL_ALPHA 4BETA 4GAMMA 4DELTA 4EPSILON 4ZETA 4ETA 4THETA 4IOTA 4KAPPA 4LAMDA 4MU
4NU 4XI 4OMICRON 4PI 4RHO 4THETA_SYMBOL 4SIGMA 4TAU 4UPSILON 4PHI 4CHI 4PSI 4OMEGA 3NABLA
3SMALL_ALPHA 4BETA 4GAMMA 4DELTA 4EPSILON 4ZETA 4ETA 4THETA 4IOTA 4KAPPA 4LAMDA 4MU 4NU 4XI
4OMICRON 4PI 4RHO 4FINAL_SIGMA 4SIGMA 4TAU 4UPSILON 4PHI 4CHI 4PSI 4OMEGA 3PARTIAL_DIFFERENTIAL
3EPSILON_SYMBOL 3THETA_SYMBOL 3KAPPA_SYMBOL 3PHI_SYMBOL 3RHO_SYMBOL 3PI_SYMBOL
1SANS-SERIF_BOLD_CAPITAL_ALPHA 4BETA 4GAMMA 4DELTA 4EPSILON 4ZETA 4ETA 4THETA 4IOTA 4KAPPA 4LAMDA
4MU 4NU 4XI 4OMICRON 4PI 4RHO 4THETA_SYMBOL 4SIGMA 4TAU 4UPSILON 4PHI 4CHI 4PSI 4OMEGA 3NABLA
3SMALL_ALPHA 4BETA 4GAMMA 4DELTA 4EPSILON 4ZETA 4ETA 4THETA 4IOTA 4KAPPA 4LAMDA 4MU 4NU 4XI
4OMICRON 4PI 4RHO 4FINAL_SIGMA 4SIGMA 4TAU 4UPSILON 4PHI 4CHI 4PSI 4OMEGA 3PARTIAL_DIFFERENTIAL
3EPSILON_SYMBOL 3THETA_SYMBOL 3KAPPA_SYMBOL 3PHI_SYMBOL 3RHO_SYMBOL 3PI_SYMBOL
3ITALIC_CAPITAL_ALPHA 5BETA 5GAMMA 5DELTA 5EPSILON 5ZETA 5ETA 5THETA 5IOTA 5KAPPA 5LAMDA 5MU 5NU
5XI 5OMICRON 5PI 5RHO 5THETA_SYMBOL 5SIGMA 5TAU 5UPSILON 5PHI 5CHI 5PSI 5OMEGA 4NABLA 4SMALL_ALPHA
5BETA 5GAMMA 5DELTA 5EPSILON 5ZETA 5ETA 5THETA 5IOTA 5KAPPA 5LAMDA 5MU 5NU 5XI 5OMICRON 5PI 5RHO
5FINAL_SIGMA 5SIGMA 5TAU 5UPSILON 5PHI 5CHI 5PSI 5OMEGA 4PARTIAL_DIFFERENTIAL 4EPSILON_SYMBOL
4THETA_SYMBOL 4KAPPA_SYMBOL 4PHI_SYMBOL 4RHO_SYMBOL 4PI_SYMBOL 1BOLD_CAPITAL_DIGAMMA ~ @1D7CE
2DIGIT_ZERO 3ONE 3TWO 3THREE 3FOUR 3FIVE 3SIX 3SEVEN 3EIGHT 3NINE 1DOUBLE-STRUCK_DIGIT_ZERO 3ONE
3TWO 3THREE 3FOUR 3FIVE 3SIX 3SEVEN 3EIGHT 3NINE 1SANS-SERIF_DIGIT_ZERO 3ONE 3TWO 3THREE 3FOUR
3FIVE 3SIX 3SEVEN 3EIGHT 3NINE 2BOLD_DIGIT_ZERO 4ONE 4TWO 4THREE 4FOUR 4FIVE 4SIX 4SEVEN 4EIGHT
4NINE 1MONOSPACE_DIGIT_ZERO 3ONE 3TWO 3THREE 3FOUR 3FIVE 3SIX 3SEVEN 3EIGHT 3NINE
0SIGNWRITING_HAND-FIST_INDEX 1HAND-CIRCLE_INDEX 1HAND-CUP_INDEX 1HAND-OVAL_INDEX 1HAND-HINGE_INDEX
1HAND-ANGLE_INDEX 1HAND-FIST_INDEX_BENT 1HAND-CIRCLE_INDEX_BENT 1HAND-FIST_THUMB_UNDER_INDEX_BENT
2INDEX_RAISED_KNUCKLE 3CUPPED 3HINGED 4LOW 1HAND-CIRCLE_INDEX_HINGE 1HAND-FIST_INDEX_MIDDLE
1HAND-CIRCLE_INDEX_MIDDLE 1HAND-FIST_INDEX_MIDDLE_BENT 4RAISED_KNUCKLES 4HINGED 3UP_MIDDLE_HINGED
3HINGED_MIDDLE_UP 3MIDDLE_CONJOINED 5INDEX_BENT 5MIDDLE_BENT 5CUPPED 5HINGED 4CROSSED
1HAND-CIRCLE_INDEX_MIDDLE_CROSSED 1HAND-FIST_MIDDLE_BENT_OVER_INDEX 2INDEX_BENT_OVER_MIDDLE
3MIDDLE_THUMB 1HAND-CIRCLE_INDEX_MIDDLE_THUMB 1HAND-FIST_INDEX_MIDDLE_STRAIGHT_THUMB_BENT
4BENT_THUMB_STRAIGHT 4THUMB_BENT 4HINGED_SPREAD_THUMB_SIDE 3UP_MIDDLE_HINGED_THUMB_SIDE 7CONJOINED
3HINGED_MIDDLE_UP_THUMB_SIDE 3MIDDLE_UP_SPREAD_THUMB_FORWARD 4THUMB_CUPPED 5CIRCLED 5HOOKED
5HINGED 2THUMB_BETWEEN_INDEX_MIDDLE_STRAIGHT 2INDEX_MIDDLE_CONJOINED_THUMB_SIDE 7CONJOINED 7BENT
2MIDDLE_THUMB_HOOKED_INDEX_UP 2INDEX_THUMB_HOOKED_MIDDLE_UP 3MIDDLE_CONJOINED_HINGED_THUMB_SIDE
4CROSSED_THUMB_SIDE 4CONJOINED_THUMB_FORWARD 5CUPPED_THUMB_FORWARD 2MIDDLE_THUMB_CUPPED_INDEX_UP
2INDEX_THUMB_CUPPED_MIDDLE_UP 2MIDDLE_THUMB_CIRCLED_INDEX_UP 6HINGED
2INDEX_THUMB_ANGLED_OUT_MIDDLE_UP 5IN_MIDDLE_UP 4CIRCLED_MIDDLE_UP 3MIDDLE_THUMB_CONJOINED_HINGED
5ANGLED_OUT 5ANGLED 2MIDDLE_THUMB_ANGLED_OUT_INDEX_UP 7CROSSED 5INDEX_UP
2INDEX_THUMB_HOOKED_MIDDLE_HINGED 1HAND-FLAT_FOUR_FINGERS 4BENT 4HINGED 4CONJOINED 5SPLIT
1HAND-CLAW_FOUR_FINGERS_CONJOINED 1HAND-FIST_FOUR_FINGERS_CONJOINED_BENT
1HAND-HINGE_FOUR_FINGERS_CONJOINED 1HAND-FLAT_FIVE_FINGERS_SPREAD 2HEEL_FIVE_FINGERS_SPREAD
2FIVE_FINGERS_SPREAD_FOUR_BENT 2HEEL_FIVE_FINGERS_SPREAD_FOUR_BENT 2FIVE_FINGERS_SPREAD_BENT
2HEEL_FIVE_FINGERS_SPREAD_BENT 2FIVE_FINGERS_SPREAD_THUMB_FORWARD 1HAND-CUP_FIVE_FINGERS_SPREAD
5OPEN 1HAND-HINGE_FIVE_FINGERS_SPREAD_OPEN 1HAND-OVAL_FIVE_FINGERS_SPREAD
1HAND-FLAT_FIVE_FINGERS_SPREAD_HINGED 6THUMB_SIDE 6NO_THUMB 1HAND-FLAT 2BETWEEN_PALM_FACINGS 2HEEL
2THUMB_SIDE 2HEEL_THUMB_SIDE 2THUMB_BENT 3FORWARD 2SPLIT_INDEX_THUMB_SIDE 3CENTRE 4THUMB_SIDE
6BENT 3LITTLE 1HAND-CLAW 2THUMB_SIDE 2NO_THUMB 2THUMB_FORWARD 1HAND-HOOK_CURLICUE 1HAND-HOOK
1HAND-CUP_OPEN 1HAND-CUP 2OPEN_THUMB_SIDE 2THUMB_SIDE 2OPEN_NO_THUMB 2NO_THUMB 2OPEN_THUMB_FORWARD
2THUMB_FORWARD 1HAND-CURLICUE_OPEN 1HAND-CURLICUE 1HAND-CIRCLE 1HAND-OVAL 2THUMB_SIDE 2NO_THUMB
2THUMB_FORWARD 1HAND-HINGE_OPEN 3THUMB_FORWARD 1HAND-HINGE 2SMALL 2OPEN_THUMB_SIDE 2THUMB_SIDE
2OPEN_NO_THUMB 2NO_THUMB 2THUMB_SIDE_TOUCHING_INDEX 3BETWEEN_MIDDLE_RING 1HAND-ANGLE
1HAND-FIST_INDEX_MIDDLE_RING 1HAND-CIRCLE_INDEX_MIDDLE_RING 1HAND-HINGE_INDEX_MIDDLE_RING
1HAND-ANGLE_INDEX_MIDDLE_RING 1HAND-HINGE_LITTLE 1HAND-FIST_INDEX_MIDDLE_RING_BENT 5CONJOINED
1HAND-HINGE_INDEX_MIDDLE_RING_CONJOINED 1HAND-FIST_LITTLE_DOWN 4RIPPLE_STRAIGHT 5CURVED
4OTHERS_CIRCLED 3UP 2THUMB_UNDER_LITTLE_UP 1HAND-CIRCLE_LITTLE_UP 1HAND-OVAL_LITTLE_UP
1HAND-ANGLE_LITTLE_UP 1HAND-FIST_LITTLE_RAISED_KNUCKLE 3BENT 3TOUCHES_THUMB 3THUMB
1HAND-HINGE_LITTLE_THUMB 1HAND-FIST_LITTLE_INDEX_THUMB 1HAND-HINGE_LITTLE_INDEX_THUMB
1HAND-ANGLE_LITTLE_INDEX_THUMB_INDEX_THUMB_OUT 6THUMB 1HAND-FIST_LITTLE_INDEX
1HAND-CIRCLE_LITTLE_INDEX 1HAND-HINGE_LITTLE_INDEX 1HAND-ANGLE_LITTLE_INDEX
1HAND-FIST_INDEX_MIDDLE_LITTLE 1HAND-CIRCLE_INDEX_MIDDLE_LITTLE 1HAND-HINGE_INDEX_MIDDLE_LITTLE
2RING 1HAND-ANGLE_INDEX_MIDDLE_LITTLE 1HAND-FIST_INDEX_MIDDLE_CROSS_LITTLE
1HAND-CIRCLE_INDEX_MIDDLE_CROSS_LITTLE 1HAND-FIST_RING_DOWN
1HAND-HINGE_RING_DOWN_INDEX_THUMB_HOOK_MIDDLE 1HAND-ANGLE_RING_DOWN_MIDDLE_THUMB_INDEX_CROSS
1HAND-FIST_RING_UP 3RAISED_KNUCKLE 3LITTLE 1HAND-CIRCLE_RING_LITTLE 1HAND-OVAL_RING_LITTLE
1HAND-ANGLE_RING_LITTLE 1HAND-FIST_RING_MIDDLE 4CONJOINED 4RAISED_KNUCKLES 3INDEX 3THUMB
1HAND-HOOK_RING_THUMB 1HAND-FIST_INDEX_RING_LITTLE 1HAND-CIRCLE_INDEX_RING_LITTLE
1HAND-CURLICUE_INDEX_RING_LITTLE_ON 1HAND-HOOK_INDEX_RING_LITTLE_OUT 5IN 5UNDER
1HAND-CUP_INDEX_RING_LITTLE 1HAND-HINGE_INDEX_RING_LITTLE 1HAND-ANGLE_INDEX_RING_LITTLE_OUT
4LITTLE 1HAND-FIST_MIDDLE_DOWN 1HAND-HINGE_MIDDLE 1HAND-FIST_MIDDLE_UP 1HAND-CIRCLE_MIDDLE_UP
1HAND-FIST_MIDDLE_RAISED_KNUCKLE 3UP_THUMB_SIDE 1HAND-HOOK_MIDDLE_THUMB
1HAND-FIST_MIDDLE_THUMB_LITTLE 3LITTLE 3RING_LITTLE 1HAND-CIRCLE_MIDDLE_RING_LITTLE
1HAND-CURLICUE_MIDDLE_RING_LITTLE_ON 1HAND-CUP_MIDDLE_RING_LITTLE 1HAND-HINGE_MIDDLE_RING_LITTLE
1HAND-ANGLE_MIDDLE_RING_LITTLE_OUT 5IN 4LITTLE 1HAND-CIRCLE_MIDDLE_RING_LITTLE_BENT
1HAND-CLAW_MIDDLE_RING_LITTLE_CONJOINED 6SIDE 1HAND-HOOK_MIDDLE_RING_LITTLE_CONJOINED_OUT 6IN
5CONJOINED 1HAND-HINGE_INDEX_HINGED 1HAND-FIST_INDEX_THUMB_SIDE 1HAND-HINGE_INDEX_THUMB_SIDE
1HAND-FIST_INDEX_THUMB_SIDE_THUMB_DIAGONAL 6CONJOINED 6BENT 5INDEX_BENT 5BOTH_BENT 5INDEX_HINGE
4FORWARD_INDEX_STRAIGHT 6BENT 4HOOK 4CURLICUE 4CURVE_THUMB_INSIDE
1HAND-CLAW_INDEX_THUMB_CURVE_THUMB_INSIDE 1HAND-FIST_INDEX_THUMB_CURVE_THUMB_UNDER 4CIRCLE
1HAND-CUP_INDEX_THUMB 4OPEN 1HAND-HINGE_INDEX_THUMB_OPEN 4LARGE 3THUMB 4SMALL
1HAND-ANGLE_INDEX_THUMB_OUT 4IN 3THUMB 1HAND-FIST_THUMB 3HEEL 3SIDE_DIAGONAL 4CONJOINED 4BENT
3FORWARD 3BETWEEN_INDEX_MIDDLE 4MIDDLE_RING 4RING_LITTLE 3UNDER_TWO_FINGERS 3OVER_TWO_FINGERS
3UNDER_THREE_FINGERS 4FOUR_FINGERS 3OVER_FOUR_RAISED_KNUCKLES 1HAND-FIST 2HEEL 1TOUCH_SINGLE
2MULTIPLE 2BETWEEN 1GRASP_SINGLE 2MULTIPLE 2BETWEEN 1STRIKE_SINGLE 2MULTIPLE 2BETWEEN
1BRUSH_SINGLE 2MULTIPLE 2BETWEEN 1RUB_SINGLE 2MULTIPLE 2BETWEEN 1SURFACE_SYMBOLS 2BETWEEN
1SQUEEZE_LARGE_SINGLE 2SMALL_SINGLE 2LARGE_MULTIPLE 2SMALL_MULTIPLE 2SEQUENTIAL
1FLICK_LARGE_SINGLE 2SMALL_SINGLE 2LARGE_MULTIPLE 2SMALL_MULTIPLE 2SEQUENTIAL
1SQUEEZE_FLICK_ALTERNATING 1MOVEMENT-HINGE_UP_DOWN_LARGE 4SMALL 3SEQUENTIAL 2DOWN_SEQUENTIAL
2UP_DOWN_ALTERNATING_LARGE 5SMALL 2SIDE_TO_SIDE_SCISSORS 1MOVEMENT-WALLPLANE_FINGER_CONTACT
1MOVEMENT-FLOORPLANE_FINGER_CONTACT 1MOVEMENT-WALLPLANE_SINGLE_STRAIGHT_SMALL 4MEDIUM 4LARGE
4LARGEST 3WRIST_FLEX 2DOUBLE_STRAIGHT 3WRIST_FLEX 3ALTERNATING 4WRIST_FLEX 2CROSS
2TRIPLE_STRAIGHT_MOVEMENT 3WRIST_FLEX 3ALTERNATING 4WRIST_FLEX 2BEND_SMALL 3MEDIUM 3LARGE
2CORNER_SMALL 3MEDIUM 3LARGE 3ROTATION 2CHECK_SMALL 3MEDIUM 3LARGE 2BOX_SMALL 3MEDIUM 3LARGE
2ZIGZAG_SMALL 3MEDIUM 3LARGE 2PEAKS_SMALL 3MEDIUM 3LARGE
1TRAVEL-WALLPLANE_ROTATION-WALLPLANE_SINGLE 3DOUBLE 3ALTERNATING 2ROTATION-FLOORPLANE_SINGLE
3DOUBLE 3ALTERNATING 2SHAKING 2ARM_SPIRAL_SINGLE 4DOUBLE 4TRIPLE 1MOVEMENT-DIAGONAL_AWAY_SMALL
3MEDIUM 3LARGE 3LARGEST 2TOWARDS_SMALL 3MEDIUM 3LARGE 3LARGEST 2BETWEEN_AWAY_SMALL 4MEDIUM 4LARGE
4LARGEST 3TOWARDS_SMALL 4MEDIUM 4LARGE 4LARGEST 1MOVEMENT-FLOORPLANE_SINGLE_STRAIGHT_SMALL 4MEDIUM
4LARGE 4LARGEST 3WRIST_FLEX 2DOUBLE_STRAIGHT 3WRIST_FLEX 3ALTERNATING 4WRIST_FLEX 2CROSS
2TRIPLE_STRAIGHT_MOVEMENT 3WRIST_FLEX 3ALTERNATING_MOVEMENT 4WRIST_FLEX 2BEND 2CORNER_SMALL
3MEDIUM 3LARGE 2CHECK 2BOX_SMALL 3MEDIUM 3LARGE 2ZIGZAG_SMALL 3MEDIUM 3LARGE 2PEAKS_SMALL 3MEDIUM
3LARGE 1TRAVEL-FLOORPLANE_ROTATION-FLOORPLANE_SINGLE 3DOUBLE 3ALTERNATING
2ROTATION-WALLPLANE_SINGLE 3DOUBLE 3ALTERNATING 2SHAKING 1MOVEMENT-WALLPLANE_CURVE_QUARTER_SMALL
4MEDIUM 4LARGE 4LARGEST 3HALF-CIRCLE_SMALL 4MEDIUM 4LARGE 4LARGEST 3THREE-QUARTER_CIRCLE_SMALL
5MEDIUM 2HUMP_SMALL 3MEDIUM 3LARGE 2LOOP_SMALL 3MEDIUM 3LARGE 3SMALL_DOUBLE
2WAVE_CURVE_DOUBLE_SMALL 5MEDIUM 5LARGE 4TRIPLE_SMALL 5MEDIUM 5LARGE 2CURVE_THEN_STRAIGHT
2CURVED_CROSS_SMALL 4MEDIUM 1ROTATION-WALLPLANE_SINGLE 2DOUBLE 2ALTERNATE
1MOVEMENT-WALLPLANE_SHAKING 2CURVE_HITTING_FRONT_WALL 2HUMP_HITTING_FRONT_WALL
2LOOP_HITTING_FRONT_WALL 2WAVE_HITTING_FRONT_WALL 1ROTATION-WALLPLANE_SINGLE_HITTING_FRONT_WALL
2DOUBLE_HITTING_FRONT_WALL 2ALTERNATING_HITTING_FRONT_WALL 1MOVEMENT-WALLPLANE_CURVE_HITTING_CHEST
2HUMP_HITTING_CHEST 2LOOP_HITTING_CHEST 2WAVE_HITTING_CHEST
1ROTATION-WALLPLANE_SINGLE_HITTING_CHEST 2DOUBLE_HITTING_CHEST 2ALTERNATING_HITTING_CHEST
1MOVEMENT-WALLPLANE_WAVE_DIAGONAL_PATH_SMALL 5MEDIUM 5LARGE
1MOVEMENT-FLOORPLANE_CURVE_HITTING_CEILING_SMALL 5LARGE 2HUMP_HITTING_CEILING_SMALL_DOUBLE
5LARGE_DOUBLE 5SMALL_TRIPLE 5LARGE_TRIPLE 2LOOP_HITTING_CEILING_SMALL_SINGLE 5LARGE_SINGLE
5SMALL_DOUBLE 5LARGE_DOUBLE 2WAVE_HITTING_CEILING_SMALL 5LARGE
1ROTATION-FLOORPLANE_SINGLE_HITTING_CEILING 2DOUBLE_HITTING_CEILING 2ALTERNATING_HITTING_CEILING
1MOVEMENT-FLOORPLANE_CURVE_HITTING_FLOOR_SMALL 5LARGE 2HUMP_HITTING_FLOOR_SMALL_DOUBLE
5LARGE_DOUBLE 5TRIPLE_SMALL_TRIPLE 6LARGE_TRIPLE 2LOOP_HITTING_FLOOR_SMALL_SINGLE 5LARGE_SINGLE
5SMALL_DOUBLE 5LARGE_DOUBLE 2WAVE_HITTING_FLOOR_SMALL 5LARGE
1ROTATION-FLOORPLANE_SINGLE_HITTING_FLOOR 2DOUBLE_HITTING_FLOOR 2ALTERNATING_HITTING_FLOOR
1MOVEMENT-FLOORPLANE_CURVE_SMALL 3MEDIUM 3LARGE 3LARGEST 3COMBINED 2HUMP_SMALL 2LOOP_SMALL
2WAVE_SNAKE 3SMALL 3LARGE 1ROTATION-FLOORPLANE_SINGLE 2DOUBLE 2ALTERNATING
1MOVEMENT-FLOORPLANE_SHAKING_PARALLEL 1MOVEMENT-WALLPLANE_ARM_CIRCLE_SMALL_SINGLE 4MEDIUM_SINGLE
4SMALL_DOUBLE 4MEDIUM_DOUBLE 1MOVEMENT-FLOORPLANE_ARM_CIRCLE_HITTING_WALL_SMALL_SINGLE
6MEDIUM_SINGLE 6LARGE_SINGLE 6SMALL_DOUBLE 6MEDIUM_DOUBLE 6LARGE_DOUBLE
1MOVEMENT-WALLPLANE_WRIST_CIRCLE_FRONT_SINGLE 5DOUBLE
1MOVEMENT-FLOORPLANE_WRIST_CIRCLE_HITTING_WALL_SINGLE 6DOUBLE
1MOVEMENT-WALLPLANE_FINGER_CIRCLES_SINGLE 4DOUBLE
1MOVEMENT-FLOORPLANE_FINGER_CIRCLES_HITTING_WALL_SINGLE 6DOUBLE 1DYNAMIC_ARROWHEAD_SMALL 3LARGE
2FAST 2SLOW 2TENSE 2RELAXED 2SIMULTANEOUS 3ALTERNATING 2EVERY_OTHER_TIME 2GRADUAL 1HEAD 2RIM
2MOVEMENT-WALLPLANE_STRAIGHT 3TILT 2MOVEMENT-FLOORPLANE_STRAIGHT 2MOVEMENT-WALLPLANE_CURVE
2MOVEMENT-FLOORPLANE_CURVE 2MOVEMENT_CIRCLE 1FACE_DIRECTION_POSITION_NOSE_FORWARD_TILTING
5UP_OR_DOWN 8TILTING 1EYEBROWS_STRAIGHT_UP 3NEUTRAL 3DOWN 1DREAMY_EYEBROWS_NEUTRAL_DOWN
3DOWN_NEUTRAL 3UP_NEUTRAL 3NEUTRAL_UP 1FOREHEAD_NEUTRAL 2CONTACT 2WRINKLED 1EYES_OPEN 2SQUEEZED
2CLOSED 1EYE_BLINK_SINGLE 3MULTIPLE 1EYES_HALF_OPEN 2WIDE_OPEN 2HALF_CLOSED 2WIDENING_MOVEMENT
1EYE_WINK 1EYELASHES_UP 2DOWN 2FLUTTERING 1EYEGAZE-WALLPLANE_STRAIGHT 3DOUBLE 3ALTERNATING
1EYEGAZE-FLOORPLANE_STRAIGHT 3DOUBLE 3ALTERNATING 1EYEGAZE-WALLPLANE_CURVED
1EYEGAZE-FLOORPLANE_CURVED 1EYEGAZE-WALLPLANE_CIRCLING 1CHEEKS_PUFFED 2NEUTRAL 2SUCKED
1TENSE_CHEEKS_HIGH 3MIDDLE 3LOW 1EARS 1NOSE_NEUTRAL 2CONTACT 2WRINKLES 2WIGGLES 1AIR_BLOWING_OUT
2SUCKING_IN 2BLOW_SMALL_ROTATIONS 2SUCK_SMALL_ROTATIONS 1BREATH_INHALE 2EXHALE
1MOUTH_CLOSED_NEUTRAL 3FORWARD 3CONTACT 2SMILE 3WRINKLED 3OPEN 2FROWN 3WRINKLED 3OPEN 2OPEN_CIRCLE
3FORWARD 3WRINKLED 3OVAL 4WRINKLED 4YAWN 3RECTANGLE 4WRINKLED 4YAWN 2KISS 3FORWARD 3WRINKLED
2TENSE 3FORWARD 3SUCKED 1LIPS_PRESSED_TOGETHER 1LIP_LOWER_OVER_UPPER 2UPPER_OVER_LOWER
1MOUTH_CORNERS 2WRINKLES_SINGLE 3DOUBLE 1TONGUE_STICKING_OUT_FAR 2LICKING_LIPS 2TIP_BETWEEN_LIPS
3TOUCHING_INSIDE_MOUTH 2INSIDE_MOUTH_RELAXED 2MOVES_AGAINST_CHEEK 2CENTRE_STICKING_OUT
3INSIDE_MOUTH 1TEETH 2MOVEMENT 2ON_TONGUE 4MOVEMENT 3LIPS 4MOVEMENT 2BITE_LIPS
1MOVEMENT-WALLPLANE_JAW 1MOVEMENT-FLOORPLANE_JAW 1NECK 1HAIR 1EXCITEMENT 1SHOULDER_HIP_SPINE
3POSITIONS 1WALLPLANE_SHOULDER_HIP_MOVE 1FLOORPLANE_SHOULDER_HIP_MOVE 1SHOULDER_TILTING_FROM_WAIST
1TORSO-WALLPLANE_STRAIGHT_STRETCH 2CURVED_BEND 1TORSO-FLOORPLANE_TWISTING
1UPPER_BODY_TILTING_FROM_HIP_JOINTS 1LIMB_COMBINATION 2LENGTH-1 + + + + + + 1FINGER
1LOCATION-WALLPLANE_SPACE 1LOCATION-FLOORPLANE_SPACE 1LOCATION_HEIGHT 2WIDTH 2DEPTH 2HEAD_NECK
2TORSO 2LIMBS_DIGITS 1COMMA 1FULL_STOP 1SEMICOLON 1COLON 1PARENTHESIS @1DA9B 1FILL_MODIFIER-2 + +
+ + @1DAA1 1ROTATION_MODIFIER-2 + + + + + + + 2MODIFIER-10 + + + + + + @1DF00
0LATIN_SMALL_LETTER_FENG_DIGRAPH_WITH_TRILL 3REVERSED_SCRIPT_G 1LETTER_SMALL_CAPITAL_TURNED_G
1SMALL_LETTER_REVERSED_K 1LETTER_SMALL_CAPITAL_L_WITH_BELT 1SMALL_LETTER_LEZH_WITH_RETROFLEX_HOOK
3TURNED_Y_WITH_BELT 3REVERSED_ENG 3TURNED_R_WITH_LONG_LEG_AND_RETROFLEX_HOOK
3T_WITH_HOOK_AND_RETROFLEX_HOOK 1LETTER_RETROFLEX_CLICK_WITH_RETROFLEX_HOOK
1SMALL_LETTER_ESH_WITH_DOUBLE_BAR 7AND_CURL 3TURNED_T_WITH_CURL
1LETTER_INVERTED_GLOTTAL_STOP_WITH_CURL 2STRETCHED_C_WITH_CURL 2SMALL_CAPITAL_TURNED_K
1SMALL_LETTER_L_WITH_FISHHOOK 3DEZH_DIGRAPH_WITH_PALATAL_HOOK 3L_WITH_BELT_AND_PALATAL_HOOK
3ENG_WITH_PALATAL_HOOK 3TURNED_R_WITH_PALATAL_HOOK 3R_WITH_FISHHOOK_AND_PALATAL_HOOK
3TESH_DIGRAPH_WITH_PALATAL_HOOK 3EZH_WITH_PALATAL_HOOK 3DEZH_DIGRAPH_WITH_RETROFLEX_HOOK
3I_WITH_STROKE_AND_RETROFLEX_HOOK 3O_WITH_RETROFLEX_HOOK 3TESH_DIGRAPH_WITH_RETROFLEX_HOOK
3C_WITH_RETROFLEX_HOOK 3S_WITH_CURL @1E000 0COMBINING_GLAGOLITIC_LETTER_AZU 3BUKY 3VEDE 3GLAGOLI
3DOBRO 3YESTU 3ZHIVETE @1E008 3ZEMLJA 3IZHE 3INITIAL_IZHE 3I 3DJERVI 3KAKO 3LJUDIJE 3MYSLITE
3NASHI 3ONU 3POKOJI 3RITSI 3SLOVO 3TVRIDO 3UKU 3FRITU 3HERU @1E01B 3SHTA 3TSI 3CHRIVI 3SHA 3YERU
3YERI 3YATI @1E023 3YU 3SMALL_YUS @1E026 3YO 3IOTATED_SMALL_YUS 3BIG_YUS 3IOTATED_BIG_YUS 3FITA
@1E100 0NYIAKENG_PUACHUE_HMONG_LETTER_MA 4TSA 4NTA 4TA 4HA 4NA 4XA 4NKA 4CA 4LA 4SA 4ZA 4NCA 4NTSA
4KA 4DA 4NYA 4NRA 4VA 4NTXA 4TXA 4FA 4RA 4QA 4YA 4NQA 4PA 4XYA 4NPA 4DLA 4NPLA 4HAH 4MLA 4PLA 4GA
4RRA 4A 4AA 4I 4U 4O 4OO 4E 4EE 4W @1E130 3TONE-B 3TONE-M 3TONE-J 3TONE-V 3TONE-S 3TONE-G 3TONE-D
3SIGN_FOR_PERSON 5THING 5LOCATION 5ANIMAL 5INVERTEBRATE 4XW_XW 3SYLLABLE_LENGTHENER @1E140
3DIGIT_ZERO 4ONE 4TWO 4THREE 4FOUR 4FIVE 4SIX 4SEVEN 4EIGHT 4NINE @1E14E 3LOGOGRAM_NYAJ
3CIRCLED_CA @1E290 0TOTO_LETTER_PA 2BA 2TA 2DA 2KA 2GA 2MA 2NA 2NGA 2SA 2CHA 2YA 2WA 2JA 2HA 2RA
2LA 2I 2BREATHY_I 2IU 2BREATHY_IU 2U 2E 2BREATHY_E 2EO 2BREATHY_EO 2O 2AE 2BREATHY_AE 2A
1SIGN_RISING_TONE @1E2C0 0WANCHO_LETTER_AA 2A 2BA 2CA 2DA 2GA 2YA 2PHA 2LA 2NA 2PA 2TA 2THA 2FA
2SA 2SHA 2JA 2ZA 2WA 2VA 2KA 2O 2AU 2RA 2MA 2KHA 2HA 2E 2I 2NGA 2U 2LLHA 2TSA 2TRA 2ONG 2AANG 2ANG
2ING 2ON 2EN 2AAN 2NYA 2UEN 2YIH 1TONE_TUP 2TUPNI 2KOI 2KOINI 1DIGIT_ZERO 2ONE 2TWO 2THREE 2FOUR
2FIVE 2SIX 2SEVEN 2EIGHT 2NINE @1E2FF 1NGUN_SIGN @1E7E0 0ETHIOPIC_SYLLABLE_HHYA 2HHYU 2HHYI 2HHYAA
2HHYEE 2HHYE 2HHYO @1E7E8 2GURAGE_HHWA 2HHWI 2HHWEE 2HHWE @1E7ED 2GURAGE_MWI 3MWEE @1E7F0 3QWI
3QWEE 3QWE 3BWI 3BWEE 3KWI 3KWEE 3KWE 3GWI 3GWEE 3GWE 3FWI 3FWEE 3PWI 3PWEE @1E800
0MENDE_KIKAKUI_SYLLABLE_M001_KI 3M002_KA 3M003_KU 3M065_KEE 3M095_KE 3M076_KOO 3M048_KO 3M179_KUA
3M004_WI 3M005_WA 3M006_WU 3M126_WEE 3M118_WE 3M114_WOO 3M045_WO 3M194_WUI 3M143_WEI 3M061_WVI
3M049_WVA 3M139_WVE 3M007_MIN 3M008_MAN 3M009_MUN 3M059_MEN 3M094_MON 3M154_MUAN 3M189_MUEN
3M010_BI 3M011_BA 3M012_BU 3M150_BEE 3M097_BE 3M103_BOO 3M138_BO 3M013_I 3M014_A 3M015_U 3M163_EE
3M100_E 3M165_OO 3M147_O 3M137_EI 3M131_IN 3M135_IN 3M195_AN 3M178_EN 3M019_SI 3M020_SA 3M021_SU
3M162_SEE 3M116_SE 3M136_SOO 3M079_SO 3M196_SIA 3M025_LI 3M026_LA 3M027_LU 3M084_LEE 3M073_LE
3M054_LOO 3M153_LO 3M110_LONG_LE 3M016_DI 3M017_DA 3M018_DU 3M089_DEE 3M180_DOO 3M181_DO 3M022_TI
3M023_TA 3M024_TU 3M091_TEE 3M055_TE 3M104_TOO 3M069_TO 3M028_JI 3M029_JA 3M030_JU 3M157_JEE
3M113_JE 3M160_JOO 3M063_JO 3M175_LONG_JO 3M031_YI 3M032_YA 3M033_YU 3M109_YEE 3M080_YE 3M141_YOO
3M121_YO 3M034_FI 3M035_FA 3M036_FU 3M078_FEE 3M075_FE 3M133_FOO 3M088_FO 3M197_FUA 3M101_FAN
3M037_NIN 3M038_NAN 3M039_NUN 3M117_NEN 3M169_NON 3M176_HI 3M041_HA 3M186_HU 3M040_HEE 3M096_HE
3M042_HOO 3M140_HO 3M083_HEEI 3M128_HOOU 3M053_HIN 3M130_HAN 3M087_HUN 3M052_HEN 3M193_HON
3M046_HUAN 3M090_NGGI 3M043_NGGA 3M082_NGGU 3M115_NGGEE 3M146_NGGE 3M156_NGGOO 3M120_NGGO
3M159_NGGAA 3M127_NGGUA 3M086_LONG_NGGE 3M106_LONG_NGGOO 3M183_LONG_NGGO 3M155_GI 3M111_GA
3M168_GU 3M190_GEE 3M166_GUEI 3M167_GUAN 3M184_NGEN 3M057_NGON 3M177_NGUAN 3M068_PI 3M099_PA
3M050_PU 3M081_PEE 3M051_PE 3M102_POO 3M066_PO 3M145_MBI 3M062_MBA 3M122_MBU 3M047_MBEE 3M188_MBEE
3M072_MBE 3M172_MBOO 3M174_MBO 3M187_MBUU 3M161_LONG_MBE 3M105_LONG_MBOO 3M142_LONG_MBO 3M132_KPI
3M092_KPA 3M074_KPU 3M044_KPEE 3M108_KPE 3M112_KPOO 3M158_KPO 3M124_GBI 3M056_GBA 3M148_GBU
3M093_GBEE 3M107_GBE 3M071_GBOO 3M070_GBO 3M171_RA 3M123_NDI 3M129_NDA 3M125_NDU 3M191_NDEE
3M119_NDE 3M067_NDOO 3M064_NDO 3M152_NJA 3M192_NJU 3M149_NJEE 3M134_NJOO 3M182_VI 3M185_VA
3M151_VU 3M173_VEE 3M085_VE 3M144_VOO 3M077_VO 3M164_NYIN 3M058_NYAN 3M170_NYUN 3M098_NYEN
3M060_NYON @1E8C7 2DIGIT_ONE 3TWO 3THREE 3FOUR 3FIVE 3SIX 3SEVEN 3EIGHT 3NINE
2COMBINING_NUMBER_TEENS 4TENS 4HUNDREDS 4THOUSANDS 4TEN_THOUSANDS 4HUNDRED_THOUSANDS 4MILLIONS
@1E900 0ADLAM_CAPITAL_LETTER_ALIF 3DAALI 3LAAM 3MIIM 3BA 3SINNYIIYHE 3PE 3BHE 3RA 3E 3FA 3I 3O
3DHA 3YHE 3WAW 3NUN 3KAF 3YA 3U 3JIIM 3CHI 3HA 3QAAF 3GA 3NYA 3TU 3NHA 3VA 3KHA 3GBE 3ZAL 3KPO
3SHA 1SMALL_LETTER_ALIF 3DAALI 3LAAM 3MIIM 3BA 3SINNYIIYHE 3PE 3BHE 3RA 3E 3FA 3I 3O 3DHA 3YHE
3WAW 3NUN 3KAF 3YA 3U 3JIIM 3CHI 3HA 3QAAF 3GA 3NYA 3TU 3NHA 3VA 3KHA 3GBE 3ZAL 3KPO 3SHA
1ALIF_LENGTHENER 1VOWEL_LENGTHENER 1GEMINATION_MARK 1HAMZA 1CONSONANT_MODIFIER
1GEMINATE_CONSONANT_MODIFIER 1NUKTA 1NASALIZATION_MARK @1E950 1DIGIT_ZERO 2ONE 2TWO 2THREE 2FOUR
2FIVE 2SIX 2SEVEN 2EIGHT 2NINE @1E95E 1INITIAL_EXCLAMATION_MARK 2QUESTION_MARK @1EC71
0INDIC_SIYAQ_NUMBER_ONE 3TWO 3THREE 3FOUR 3FIVE 3SIX 3SEVEN 3EIGHT 3NINE 3TEN 3TWENTY 3THIRTY
3FORTY 3FIFTY 3SIXTY 3SEVENTY 3EIGHTY 3NINETY 3ONE_HUNDRED 3TWO_HUNDRED 3THREE_HUNDRED
3FOUR_HUNDRED 3FIVE_HUNDRED 3SIX_HUNDRED 3SEVEN_HUNDRED 3EIGHT_HUNDRED 3NINE_HUNDRED 3ONE_THOUSAND
3TWO_THOUSAND 3THREE_THOUSAND 3FOUR_THOUSAND 3FIVE_THOUSAND 3SIX_THOUSAND 3SEVEN_THOUSAND
3EIGHT_THOUSAND 3NINE_THOUSAND 3TEN_THOUSAND 3TWENTY_THOUSAND 3THIRTY_THOUSAND 3FORTY_THOUSAND
3FIFTY_THOUSAND 3SIXTY_THOUSAND 3SEVENTY_THOUSAND 3EIGHTY_THOUSAND 3NINETY_THOUSAND 3LAKH 3LAKHAN
2LAKH_MARK 2NUMBER_KAROR 3KARORAN 3PREFIXED_ONE 4TWO 4THREE 4FOUR 4FIVE 4SIX 4SEVEN 4EIGHT 4NINE
2PLACEHOLDER 2FRACTION_ONE_QUARTER 4HALF 3THREE_QUARTERS 2RUPEE_MARK 2NUMBER_ALTERNATE_ONE 4TWO
4TEN_THOUSAND 2ALTERNATE_LAKH_MARK @1ED01 0OTTOMAN_SIYAQ_NUMBER_ONE 3TWO 3THREE 3FOUR 3FIVE 3SIX
3SEVEN 3EIGHT 3NINE 3TEN 3TWENTY 3THIRTY 3FORTY 3FIFTY 3SIXTY 3SEVENTY 3EIGHTY 3NINETY
3ONE_HUNDRED 3TWO_HUNDRED 3THREE_HUNDRED 3FOUR_HUNDRED 3FIVE_HUNDRED 3SIX_HUNDRED 3SEVEN_HUNDRED
3EIGHT_HUNDRED 3NINE_HUNDRED 3ONE_THOUSAND 3TWO_THOUSAND 3THREE_THOUSAND 3FOUR_THOUSAND
3FIVE_THOUSAND 3SIX_THOUSAND 3SEVEN_THOUSAND 3EIGHT_THOUSAND 3NINE_THOUSAND 3TEN_THOUSAND
3TWENTY_THOUSAND 3THIRTY_THOUSAND 3FORTY_THOUSAND 3FIFTY_THOUSAND 3SIXTY_THOUSAND
3SEVENTY_THOUSAND 3EIGHTY_THOUSAND 3NINETY_THOUSAND 2MARRATAN 2ALTERNATE_NUMBER_TWO 4THREE 4FOUR
4FIVE 4SIX 4SEVEN 4EIGHT 4NINE 4TEN 4FOUR_HUNDRED 4SIX_HUNDRED 4TWO_THOUSAND 4TEN_THOUSAND
2FRACTION_ONE_HALF 4SIXTH @1EE00 0ARABIC_MATHEMATICAL_ALEF 2BEH 2JEEM 2DAL @1EE05 2WAW 2ZAIN 2HAH
2TAH 2YEH 2KAF 2LAM 2MEEM 2NOON 2SEEN 2AIN 2FEH 2SAD 2QAF 2REH 2SHEEN 2TEH 2THEH 2KHAH 2THAL 2DAD
2ZAH 2GHAIN 2DOTLESS_BEH 3NOON 3FEH 3QAF @1EE21 2INITIAL_BEH 3JEEM @1EE24 3HEH @1EE27 3HAH @1EE29
3YEH 3KAF 3LAM 3MEEM 3NOON 3SEEN 3AIN 3FEH 3SAD 3QAF @1EE34 3SHEEN 3TEH 3THEH 3KHAH @1EE39 3DAD
@1EE3B 3GHAIN @1EE42 2TAILED_JEEM @1EE47 3HAH @1EE49 3YEH @1EE4B 3LAM @1EE4D 3NOON 3SEEN 3AIN
@1EE51 3SAD 3QAF @1EE54 3SHEEN @1EE57 3KHAH @1EE59 3DAD @1EE5B 3GHAIN @1EE5D 3DOTLESS_NOON @1EE5F
4QAF @1EE61 2STRETCHED_BEH 3JEEM @1EE64 3HEH @1EE67 3HAH 3TAH 3YEH 3KAF @1EE6C 3MEEM 3NOON 3SEEN
3AIN 3FEH 3SAD 3QAF @1EE74 3SHEEN 3TEH 3THEH 3KHAH @1EE79 3DAD 3ZAH 3GHAIN 3DOTLESS_BEH @1EE7E
4FEH @1EE80 2LOOPED_ALEF 3BEH 3JEEM 3DAL 3HEH 3WAW 3ZAIN 3HAH 3TAH 3YEH @1EE8B 3LAM 3MEEM 3NOON
3SEEN 3AIN 3FEH 3SAD 3QAF 3REH 3SHEEN 3TEH 3THEH 3KHAH 3THAL 3DAD 3ZAH 3GHAIN @1EEA1
2DOUBLE-STRUCK_BEH 3JEEM 3DAL @1EEA5 3WAW 3ZAIN 3HAH 3TAH 3YEH @1EEAB 3LAM 3MEEM 3NOON 3SEEN 3AIN
3FEH 3SAD 3QAF 3REH 3SHEEN 3TEH 3THEH 3KHAH 3THAL 3DAD 3ZAH 3GHAIN @1EEF0
2OPERATOR_MEEM_WITH_HAH_WITH_TATWEEL 3HAH_WITH_DAL"

end Rubric.Text.CharacterName
