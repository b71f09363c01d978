/-!
# Character names: symbols

The names of the punctuation, symbols and scripts from U+2000 to U+2FFF, in the notation of the
table of character names.
-/

namespace Rubric.Text.CharacterName

/-- The names of the punctuation, symbols and scripts from U+2000 to U+2FFF. -/
def symbols : String := "
@2000 0EN_QUAD 0EM_QUAD 0EN_SPACE 0EM_SPACE 0THREE-PER-EM_SPACE 0FOUR-PER-EM_SPACE
0SIX-PER-EM_SPACE 0FIGURE_SPACE 0PUNCTUATION_SPACE 0THIN_SPACE 0HAIR_SPACE 0ZERO_WIDTH_SPACE
2NON-JOINER 2JOINER 0LEFT-TO-RIGHT_MARK 0RIGHT-TO-LEFT_MARK 0HYPHEN 0NON-BREAKING_HYPHEN
0FIGURE_DASH 0EN_DASH 0EM_DASH 0HORIZONTAL_BAR 0DOUBLE_VERTICAL_LINE 1LOW_LINE
0LEFT_SINGLE_QUOTATION_MARK 0RIGHT_SINGLE_QUOTATION_MARK 0SINGLE_LOW-9_QUOTATION_MARK
1HIGH-REVERSED-9_QUOTATION_MARK 0LEFT_DOUBLE_QUOTATION_MARK 0RIGHT_DOUBLE_QUOTATION_MARK
0DOUBLE_LOW-9_QUOTATION_MARK 1HIGH-REVERSED-9_QUOTATION_MARK 0DAGGER 0DOUBLE_DAGGER 0BULLET
0TRIANGULAR_BULLET 0ONE_DOT_LEADER 0TWO_DOT_LEADER 0HORIZONTAL_ELLIPSIS 0HYPHENATION_POINT
0LINE_SEPARATOR 0PARAGRAPH_SEPARATOR 0LEFT-TO-RIGHT_EMBEDDING 0RIGHT-TO-LEFT_EMBEDDING
0POP_DIRECTIONAL_FORMATTING 0LEFT-TO-RIGHT_OVERRIDE 0RIGHT-TO-LEFT_OVERRIDE 0NARROW_NO-BREAK_SPACE
0PER_MILLE_SIGN 1TEN_THOUSAND_SIGN 0PRIME 0DOUBLE_PRIME 0TRIPLE_PRIME 0REVERSED_PRIME
1DOUBLE_PRIME 1TRIPLE_PRIME 0CARET 0SINGLE_LEFT-POINTING_ANGLE_QUOTATION_MARK
1RIGHT-POINTING_ANGLE_QUOTATION_MARK 0REFERENCE_MARK 0DOUBLE_EXCLAMATION_MARK 0INTERROBANG
0OVERLINE 0UNDERTIE 0CHARACTER_TIE 0CARET_INSERTION_POINT 0ASTERISM 0HYPHEN_BULLET 0FRACTION_SLASH
0LEFT_SQUARE_BRACKET_WITH_QUILL 0RIGHT_SQUARE_BRACKET_WITH_QUILL 0DOUBLE_QUESTION_MARK
0QUESTION_EXCLAMATION_MARK 0EXCLAMATION_QUESTION_MARK 0TIRONIAN_SIGN_ET 0REVERSED_PILCROW_SIGN
0BLACK_LEFTWARDS_BULLET 1RIGHTWARDS_BULLET 0LOW_ASTERISK 0REVERSED_SEMICOLON 0CLOSE_UP
0TWO_ASTERISKS_ALIGNED_VERTICALLY 0COMMERCIAL_MINUS_SIGN 0SWUNG_DASH 0INVERTED_UNDERTIE
0FLOWER_PUNCTUATION_MARK 0THREE_DOT_PUNCTUATION 0QUADRUPLE_PRIME 0FOUR_DOT_PUNCTUATION
0FIVE_DOT_PUNCTUATION 0TWO_DOT_PUNCTUATION 0FOUR_DOT_MARK 0DOTTED_CROSS 0TRICOLON
0VERTICAL_FOUR_DOTS 0MEDIUM_MATHEMATICAL_SPACE 0WORD_JOINER 0FUNCTION_APPLICATION 0INVISIBLE_TIMES
1SEPARATOR 1PLUS @2066 0LEFT-TO-RIGHT_ISOLATE 0RIGHT-TO-LEFT_ISOLATE 0FIRST_STRONG_ISOLATE
0POP_DIRECTIONAL_ISOLATE 0INHIBIT_SYMMETRIC_SWAPPING 0ACTIVATE_SYMMETRIC_SWAPPING
0INHIBIT_ARABIC_FORM_SHAPING 0ACTIVATE_ARABIC_FORM_SHAPING 0NATIONAL_DIGIT_SHAPES
0NOMINAL_DIGIT_SHAPES 0SUPERSCRIPT_ZERO 1LATIN_SMALL_LETTER_I @2074 1FOUR 1FIVE 1SIX 1SEVEN 1EIGHT
1NINE 1PLUS_SIGN 1MINUS 1EQUALS_SIGN 1LEFT_PARENTHESIS 1RIGHT_PARENTHESIS 1LATIN_SMALL_LETTER_N
0SUBSCRIPT_ZERO 1ONE 1TWO 1THREE 1FOUR 1FIVE 1SIX 1SEVEN 1EIGHT 1NINE 1PLUS_SIGN 1MINUS
1EQUALS_SIGN 1LEFT_PARENTHESIS 1RIGHT_PARENTHESIS @2090 0LATIN_SUBSCRIPT_SMALL_LETTER_A 4E 4O 4X
4SCHWA 4H 4K 4L 4M 4N 4P 4S 4T @20A0 0EURO-CURRENCY_SIGN 0COLON_SIGN 0CRUZEIRO_SIGN
0FRENCH_FRANC_SIGN 0LIRA_SIGN 0MILL_SIGN 0NAIRA_SIGN 0PESETA_SIGN 0RUPEE_SIGN 0WON_SIGN
0NEW_SHEQEL_SIGN 0DONG_SIGN 0EURO_SIGN 0KIP_SIGN 0TUGRIK_SIGN 0DRACHMA_SIGN 0GERMAN_PENNY_SIGN
0PESO_SIGN 0GUARANI_SIGN 0AUSTRAL_SIGN 0HRYVNIA_SIGN 0CEDI_SIGN 0LIVRE_TOURNOIS_SIGN
0SPESMILO_SIGN 0TENGE_SIGN 0INDIAN_RUPEE_SIGN 0TURKISH_LIRA_SIGN 0NORDIC_MARK_SIGN 0MANAT_SIGN
0RUBLE_SIGN 0LARI_SIGN 0BITCOIN_SIGN 0SOM_SIGN @20D0 0COMBINING_LEFT_HARPOON_ABOVE
1RIGHT_HARPOON_ABOVE 1LONG_VERTICAL_LINE_OVERLAY 1SHORT_VERTICAL_LINE_OVERLAY
1ANTICLOCKWISE_ARROW_ABOVE 1CLOCKWISE_ARROW_ABOVE 1LEFT_ARROW_ABOVE 1RIGHT_ARROW_ABOVE
1RING_OVERLAY 1CLOCKWISE_RING_OVERLAY 1ANTICLOCKWISE_RING_OVERLAY 1THREE_DOTS_ABOVE
1FOUR_DOTS_ABOVE 1ENCLOSING_CIRCLE 2SQUARE 2DIAMOND 2CIRCLE_BACKSLASH 1LEFT_RIGHT_ARROW_ABOVE
1ENCLOSING_SCREEN 2KEYCAP 2UPWARD_POINTING_TRIANGLE 1REVERSE_SOLIDUS_OVERLAY
1DOUBLE_VERTICAL_STROKE_OVERLAY 1ANNUITY_SYMBOL 1TRIPLE_UNDERDOT 1WIDE_BRIDGE_ABOVE
1LEFTWARDS_ARROW_OVERLAY 1LONG_DOUBLE_SOLIDUS_OVERLAY 1RIGHTWARDS_HARPOON_WITH_BARB_DOWNWARDS
1LEFTWARDS_HARPOON_WITH_BARB_DOWNWARDS 1LEFT_ARROW_BELOW 1RIGHT_ARROW_BELOW 1ASTERISK_ABOVE @2100
0ACCOUNT_OF 0ADDRESSED_TO_THE_SUBJECT 0DOUBLE-STRUCK_CAPITAL_C 0DEGREE_CELSIUS 0CENTRE_LINE_SYMBOL
0CARE_OF 0CADA_UNA 0EULER_CONSTANT 0SCRUPLE 0DEGREE_FAHRENHEIT 0SCRIPT_SMALL_G 1CAPITAL_H
0BLACK-LETTER_CAPITAL_H 0DOUBLE-STRUCK_CAPITAL_H 0PLANCK_CONSTANT 2OVER_TWO_PI 0SCRIPT_CAPITAL_I
0BLACK-LETTER_CAPITAL_I 0SCRIPT_CAPITAL_L ~ 0L_B_BAR_SYMBOL 0DOUBLE-STRUCK_CAPITAL_N 0NUMERO_SIGN
0SOUND_RECORDING_COPYRIGHT 0SCRIPT_CAPITAL_P 0DOUBLE-STRUCK_CAPITAL_P 2Q 0SCRIPT_CAPITAL_R
0BLACK-LETTER_CAPITAL_R 0DOUBLE-STRUCK_CAPITAL_R 0PRESCRIPTION_TAKE 0RESPONSE 0SERVICE_MARK
0TELEPHONE_SIGN 0TRADE_MARK_SIGN 0VERSICLE 0DOUBLE-STRUCK_CAPITAL_Z 0OUNCE_SIGN 0OHM_SIGN
0INVERTED_OHM_SIGN 0BLACK-LETTER_CAPITAL_Z 0TURNED_GREEK_SMALL_LETTER_IOTA 0KELVIN_SIGN
0ANGSTROM_SIGN 0SCRIPT_CAPITAL_B 0BLACK-LETTER_CAPITAL_C 0ESTIMATED_SYMBOL 0SCRIPT_SMALL_E
1CAPITAL_E 2F 0TURNED_CAPITAL_F 0SCRIPT_CAPITAL_M 1SMALL_O 0ALEF_SYMBOL 0BET_SYMBOL 0GIMEL_SYMBOL
0DALET_SYMBOL 0INFORMATION_SOURCE 0ROTATED_CAPITAL_Q 0FACSIMILE_SIGN 0DOUBLE-STRUCK_SMALL_PI
2GAMMA 1CAPITAL_GAMMA 2PI 1N-ARY_SUMMATION 0TURNED_SANS-SERIF_CAPITAL_G 3L
0REVERSED_SANS-SERIF_CAPITAL_L 0TURNED_SANS-SERIF_CAPITAL_Y 0DOUBLE-STRUCK_ITALIC_CAPITAL_D ~ 3E
3I 3J 0PROPERTY_LINE 0TURNED_AMPERSAND 0PER_SIGN 0AKTIESELSKAB 0TURNED_SMALL_F
0SYMBOL_FOR_SAMARITAN_SOURCE 0VULGAR_FRACTION_ONE_SEVENTH 3NINTH 3TENTH 3THIRD 2TWO_THIRDS
2ONE_FIFTH 2TWO_FIFTHS 2THREE_FIFTHS 2FOUR_FIFTHS 2ONE_SIXTH 2FIVE_SIXTHS 2ONE_EIGHTH
2THREE_EIGHTHS 2FIVE_EIGHTHS 2SEVEN_EIGHTHS 0FRACTION_NUMERATOR_ONE 0ROMAN_NUMERAL_ONE 2TWO 2THREE
2FOUR 2FIVE 2SIX 2SEVEN 2EIGHT 2NINE 2TEN 2ELEVEN 2TWELVE 2FIFTY 2ONE_HUNDRED 2FIVE_HUNDRED
2ONE_THOUSAND 0SMALL_ROMAN_NUMERAL_ONE 3TWO 3THREE 3FOUR 3FIVE 3SIX 3SEVEN 3EIGHT 3NINE 3TEN
3ELEVEN 3TWELVE 3FIFTY 3ONE_HUNDRED 3FIVE_HUNDRED 3ONE_THOUSAND 0ROMAN_NUMERAL_ONE_THOUSAND_C_D
2FIVE_THOUSAND 2TEN_THOUSAND 2REVERSED_ONE_HUNDRED 0LATIN_SMALL_LETTER_REVERSED_C
0ROMAN_NUMERAL_SIX_LATE_FORM 2FIFTY_EARLY_FORM 3THOUSAND 2ONE_HUNDRED_THOUSAND
0VULGAR_FRACTION_ZERO_THIRDS 0TURNED_DIGIT_TWO 2THREE @2190 0LEFTWARDS_ARROW 0UPWARDS_ARROW
0RIGHTWARDS_ARROW 0DOWNWARDS_ARROW 0LEFT_RIGHT_ARROW 0UP_DOWN_ARROW 0NORTH_WEST_ARROW 1EAST_ARROW
0SOUTH_EAST_ARROW 1WEST_ARROW 0LEFTWARDS_ARROW_WITH_STROKE 0RIGHTWARDS_ARROW_WITH_STROKE
0LEFTWARDS_WAVE_ARROW 0RIGHTWARDS_WAVE_ARROW 0LEFTWARDS_TWO_HEADED_ARROW 0UPWARDS_TWO_HEADED_ARROW
0RIGHTWARDS_TWO_HEADED_ARROW 0DOWNWARDS_TWO_HEADED_ARROW 0LEFTWARDS_ARROW_WITH_TAIL
0RIGHTWARDS_ARROW_WITH_TAIL 0LEFTWARDS_ARROW_FROM_BAR 0UPWARDS_ARROW_FROM_BAR
0RIGHTWARDS_ARROW_FROM_BAR 0DOWNWARDS_ARROW_FROM_BAR 0UP_DOWN_ARROW_WITH_BASE
0LEFTWARDS_ARROW_WITH_HOOK 0RIGHTWARDS_ARROW_WITH_HOOK 0LEFTWARDS_ARROW_WITH_LOOP
0RIGHTWARDS_ARROW_WITH_LOOP 0LEFT_RIGHT_WAVE_ARROW 2ARROW_WITH_STROKE 0DOWNWARDS_ZIGZAG_ARROW
0UPWARDS_ARROW_WITH_TIP_LEFTWARDS 4RIGHTWARDS 0DOWNWARDS_ARROW_WITH_TIP_LEFTWARDS 4RIGHTWARDS
0RIGHTWARDS_ARROW_WITH_CORNER_DOWNWARDS 0DOWNWARDS_ARROW_WITH_CORNER_LEFTWARDS
0ANTICLOCKWISE_TOP_SEMICIRCLE_ARROW 0CLOCKWISE_TOP_SEMICIRCLE_ARROW 0NORTH_WEST_ARROW_TO_LONG_BAR
0LEFTWARDS_ARROW_TO_BAR_OVER_RIGHTWARDS_ARROW_TO_BAR 0ANTICLOCKWISE_OPEN_CIRCLE_ARROW
0CLOCKWISE_OPEN_CIRCLE_ARROW 0LEFTWARDS_HARPOON_WITH_BARB_UPWARDS 4DOWNWARDS
0UPWARDS_HARPOON_WITH_BARB_RIGHTWARDS 4LEFTWARDS 0RIGHTWARDS_HARPOON_WITH_BARB_UPWARDS 4DOWNWARDS
0DOWNWARDS_HARPOON_WITH_BARB_RIGHTWARDS 4LEFTWARDS 0RIGHTWARDS_ARROW_OVER_LEFTWARDS_ARROW
0UPWARDS_ARROW_LEFTWARDS_OF_DOWNWARDS_ARROW 0LEFTWARDS_ARROW_OVER_RIGHTWARDS_ARROW 1PAIRED_ARROWS
0UPWARDS_PAIRED_ARROWS 0RIGHTWARDS_PAIRED_ARROWS 0DOWNWARDS_PAIRED_ARROWS
0LEFTWARDS_HARPOON_OVER_RIGHTWARDS_HARPOON 0RIGHTWARDS_HARPOON_OVER_LEFTWARDS_HARPOON
0LEFTWARDS_DOUBLE_ARROW_WITH_STROKE 0LEFT_RIGHT_DOUBLE_ARROW_WITH_STROKE
0RIGHTWARDS_DOUBLE_ARROW_WITH_STROKE 0LEFTWARDS_DOUBLE_ARROW 0UPWARDS_DOUBLE_ARROW
0RIGHTWARDS_DOUBLE_ARROW 0DOWNWARDS_DOUBLE_ARROW 0LEFT_RIGHT_DOUBLE_ARROW 0UP_DOWN_DOUBLE_ARROW
0NORTH_WEST_DOUBLE_ARROW 1EAST_DOUBLE_ARROW 0SOUTH_EAST_DOUBLE_ARROW 1WEST_DOUBLE_ARROW
0LEFTWARDS_TRIPLE_ARROW 0RIGHTWARDS_TRIPLE_ARROW 0LEFTWARDS_SQUIGGLE_ARROW
0RIGHTWARDS_SQUIGGLE_ARROW 0UPWARDS_ARROW_WITH_DOUBLE_STROKE 0DOWNWARDS_ARROW_WITH_DOUBLE_STROKE
0LEFTWARDS_DASHED_ARROW 0UPWARDS_DASHED_ARROW 0RIGHTWARDS_DASHED_ARROW 0DOWNWARDS_DASHED_ARROW
0LEFTWARDS_ARROW_TO_BAR 0RIGHTWARDS_ARROW_TO_BAR 0LEFTWARDS_WHITE_ARROW 0UPWARDS_WHITE_ARROW
0RIGHTWARDS_WHITE_ARROW 0DOWNWARDS_WHITE_ARROW 0UPWARDS_WHITE_ARROW_FROM_BAR 3ON_PEDESTAL
5WITH_HORIZONTAL_BAR 6VERTICAL_BAR 2DOUBLE_ARROW 4ON_PEDESTAL 0RIGHTWARDS_WHITE_ARROW_FROM_WALL
0NORTH_WEST_ARROW_TO_CORNER 0SOUTH_EAST_ARROW_TO_CORNER 0UP_DOWN_WHITE_ARROW
0RIGHT_ARROW_WITH_SMALL_CIRCLE 0DOWNWARDS_ARROW_LEFTWARDS_OF_UPWARDS_ARROW
0THREE_RIGHTWARDS_ARROWS 0LEFTWARDS_ARROW_WITH_VERTICAL_STROKE
0RIGHTWARDS_ARROW_WITH_VERTICAL_STROKE 0LEFT_RIGHT_ARROW_WITH_VERTICAL_STROKE
0LEFTWARDS_ARROW_WITH_DOUBLE_VERTICAL_STROKE 0RIGHTWARDS_ARROW_WITH_DOUBLE_VERTICAL_STROKE
0LEFT_RIGHT_ARROW_WITH_DOUBLE_VERTICAL_STROKE 0LEFTWARDS_OPEN-HEADED_ARROW
0RIGHTWARDS_OPEN-HEADED_ARROW 0LEFT_RIGHT_OPEN-HEADED_ARROW 0FOR_ALL 0COMPLEMENT
0PARTIAL_DIFFERENTIAL 0THERE_EXISTS 1DOES_NOT_EXIST 0EMPTY_SET 0INCREMENT 0NABLA 0ELEMENT_OF
0NOT_AN_ELEMENT_OF 0SMALL_ELEMENT_OF 0CONTAINS_AS_MEMBER 0DOES_NOT_CONTAIN_AS_MEMBER
0SMALL_CONTAINS_AS_MEMBER 0END_OF_PROOF 0N-ARY_PRODUCT 1COPRODUCT 1SUMMATION 0MINUS_SIGN
0MINUS-OR-PLUS_SIGN 0DOT_PLUS 0DIVISION_SLASH 0SET_MINUS 0ASTERISK_OPERATOR 0RING_OPERATOR
0BULLET_OPERATOR 0SQUARE_ROOT 0CUBE_ROOT 0FOURTH_ROOT 0PROPORTIONAL_TO 0INFINITY 0RIGHT_ANGLE
0ANGLE 0MEASURED_ANGLE 0SPHERICAL_ANGLE 0DIVIDES 0DOES_NOT_DIVIDE 0PARALLEL_TO 0NOT_PARALLEL_TO
0LOGICAL_AND 1OR 0INTERSECTION 0UNION 0INTEGRAL 0DOUBLE_INTEGRAL 0TRIPLE_INTEGRAL
0CONTOUR_INTEGRAL 0SURFACE_INTEGRAL 0VOLUME_INTEGRAL 0CLOCKWISE_INTEGRAL 1CONTOUR_INTEGRAL
0ANTICLOCKWISE_CONTOUR_INTEGRAL 0THEREFORE 0BECAUSE 0RATIO 0PROPORTION 0DOT_MINUS 0EXCESS
0GEOMETRIC_PROPORTION 0HOMOTHETIC 0TILDE_OPERATOR 0REVERSED_TILDE 0INVERTED_LAZY_S 0SINE_WAVE
0WREATH_PRODUCT 0NOT_TILDE 0MINUS_TILDE 0ASYMPTOTICALLY_EQUAL_TO 0NOT_ASYMPTOTICALLY_EQUAL_TO
0APPROXIMATELY_EQUAL_TO 1BUT_NOT_ACTUALLY_EQUAL_TO 0NEITHER_APPROXIMATELY_NOR_ACTUALLY_EQUAL_TO
0ALMOST_EQUAL_TO 0NOT_ALMOST_EQUAL_TO 0ALMOST_EQUAL_OR_EQUAL_TO 0TRIPLE_TILDE 0ALL_EQUAL_TO
0EQUIVALENT_TO 0GEOMETRICALLY_EQUIVALENT_TO 0DIFFERENCE_BETWEEN 0APPROACHES_THE_LIMIT
0GEOMETRICALLY_EQUAL_TO 0APPROXIMATELY_EQUAL_TO_OR_THE_IMAGE_OF
0IMAGE_OF_OR_APPROXIMATELY_EQUAL_TO 0COLON_EQUALS 0EQUALS_COLON 0RING_IN_EQUAL_TO 1EQUAL_TO
0CORRESPONDS_TO 0ESTIMATES 0EQUIANGULAR_TO 0STAR_EQUALS 0DELTA_EQUAL_TO 0EQUAL_TO_BY_DEFINITION
0MEASURED_BY 0QUESTIONED_EQUAL_TO 0NOT_EQUAL_TO 0IDENTICAL_TO 0NOT_IDENTICAL_TO
0STRICTLY_EQUIVALENT_TO 0LESS-THAN_OR_EQUAL_TO 0GREATER-THAN_OR_EQUAL_TO 0LESS-THAN_OVER_EQUAL_TO
0GREATER-THAN_OVER_EQUAL_TO 0LESS-THAN_BUT_NOT_EQUAL_TO 0GREATER-THAN_BUT_NOT_EQUAL_TO
0MUCH_LESS-THAN 1GREATER-THAN 0BETWEEN 0NOT_EQUIVALENT_TO 1LESS-THAN 1GREATER-THAN
0NEITHER_LESS-THAN_NOR_EQUAL_TO 1GREATER-THAN_NOR_EQUAL_TO 0LESS-THAN_OR_EQUIVALENT_TO
0GREATER-THAN_OR_EQUIVALENT_TO 0NEITHER_LESS-THAN_NOR_EQUIVALENT_TO
1GREATER-THAN_NOR_EQUIVALENT_TO 0LESS-THAN_OR_GREATER-THAN 0GREATER-THAN_OR_LESS-THAN
0NEITHER_LESS-THAN_NOR_GREATER-THAN 1GREATER-THAN_NOR_LESS-THAN 0PRECEDES 0SUCCEEDS
0PRECEDES_OR_EQUAL_TO 0SUCCEEDS_OR_EQUAL_TO 0PRECEDES_OR_EQUIVALENT_TO 0SUCCEEDS_OR_EQUIVALENT_TO
0DOES_NOT_PRECEDE 2SUCCEED 0SUBSET_OF 0SUPERSET_OF 0NOT_A_SUBSET_OF 2SUPERSET_OF
0SUBSET_OF_OR_EQUAL_TO 0SUPERSET_OF_OR_EQUAL_TO 0NEITHER_A_SUBSET_OF_NOR_EQUAL_TO
2SUPERSET_OF_NOR_EQUAL_TO 0SUBSET_OF_WITH_NOT_EQUAL_TO 0SUPERSET_OF_WITH_NOT_EQUAL_TO 0MULTISET
1MULTIPLICATION 1UNION 0SQUARE_IMAGE_OF 1ORIGINAL_OF 1IMAGE_OF_OR_EQUAL_TO
1ORIGINAL_OF_OR_EQUAL_TO 1CAP 1CUP 0CIRCLED_PLUS 1MINUS 1TIMES 1DIVISION_SLASH 1DOT_OPERATOR
1RING_OPERATOR 1ASTERISK_OPERATOR 1EQUALS 1DASH 0SQUARED_PLUS 1MINUS 1TIMES 1DOT_OPERATOR
0RIGHT_TACK 0LEFT_TACK 0DOWN_TACK 0UP_TACK 0ASSERTION 0MODELS 0TRUE 0FORCES
0TRIPLE_VERTICAL_BAR_RIGHT_TURNSTILE 0DOUBLE_VERTICAL_BAR_DOUBLE_RIGHT_TURNSTILE 0DOES_NOT_PROVE
0NOT_TRUE 0DOES_NOT_FORCE 0NEGATED_DOUBLE_VERTICAL_BAR_DOUBLE_RIGHT_TURNSTILE
0PRECEDES_UNDER_RELATION 0SUCCEEDS_UNDER_RELATION 0NORMAL_SUBGROUP_OF 0CONTAINS_AS_NORMAL_SUBGROUP
0NORMAL_SUBGROUP_OF_OR_EQUAL_TO 0CONTAINS_AS_NORMAL_SUBGROUP_OR_EQUAL_TO 0ORIGINAL_OF 0IMAGE_OF
0MULTIMAP 0HERMITIAN_CONJUGATE_MATRIX 0INTERCALATE 0XOR 0NAND 0NOR 0RIGHT_ANGLE_WITH_ARC 1TRIANGLE
0N-ARY_LOGICAL_AND 2OR 1INTERSECTION 1UNION 0DIAMOND_OPERATOR 0DOT_OPERATOR 0STAR_OPERATOR
0DIVISION_TIMES 0BOWTIE 0LEFT_NORMAL_FACTOR_SEMIDIRECT_PRODUCT
0RIGHT_NORMAL_FACTOR_SEMIDIRECT_PRODUCT 0LEFT_SEMIDIRECT_PRODUCT 0RIGHT_SEMIDIRECT_PRODUCT
0REVERSED_TILDE_EQUALS 0CURLY_LOGICAL_OR 2AND 0DOUBLE_SUBSET 1SUPERSET 1INTERSECTION 1UNION
0PITCHFORK 0EQUAL_AND_PARALLEL_TO 0LESS-THAN_WITH_DOT 0GREATER-THAN_WITH_DOT 0VERY_MUCH_LESS-THAN
2GREATER-THAN 0LESS-THAN_EQUAL_TO_OR_GREATER-THAN 0GREATER-THAN_EQUAL_TO_OR_LESS-THAN
0EQUAL_TO_OR_LESS-THAN 3GREATER-THAN 3PRECEDES 3SUCCEEDS 0DOES_NOT_PRECEDE_OR_EQUAL
2SUCCEED_OR_EQUAL 0NOT_SQUARE_IMAGE_OF_OR_EQUAL_TO 2ORIGINAL_OF_OR_EQUAL_TO
0SQUARE_IMAGE_OF_OR_NOT_EQUAL_TO 1ORIGINAL_OF_OR_NOT_EQUAL_TO 0LESS-THAN_BUT_NOT_EQUIVALENT_TO
0GREATER-THAN_BUT_NOT_EQUIVALENT_TO 0PRECEDES_BUT_NOT_EQUIVALENT_TO
0SUCCEEDS_BUT_NOT_EQUIVALENT_TO 0NOT_NORMAL_SUBGROUP_OF 0DOES_NOT_CONTAIN_AS_NORMAL_SUBGROUP
0NOT_NORMAL_SUBGROUP_OF_OR_EQUAL_TO 0DOES_NOT_CONTAIN_AS_NORMAL_SUBGROUP_OR_EQUAL
0VERTICAL_ELLIPSIS 0MIDLINE_HORIZONTAL_ELLIPSIS 0UP_RIGHT_DIAGONAL_ELLIPSIS
0DOWN_RIGHT_DIAGONAL_ELLIPSIS 0ELEMENT_OF_WITH_LONG_HORIZONTAL_STROKE
3VERTICAL_BAR_AT_END_OF_HORIZONTAL_STROKE
0SMALL_ELEMENT_OF_WITH_VERTICAL_BAR_AT_END_OF_HORIZONTAL_STROKE 0ELEMENT_OF_WITH_DOT_ABOVE
3OVERBAR 0SMALL_ELEMENT_OF_WITH_OVERBAR 0ELEMENT_OF_WITH_UNDERBAR 3TWO_HORIZONTAL_STROKES
0CONTAINS_WITH_LONG_HORIZONTAL_STROKE 2VERTICAL_BAR_AT_END_OF_HORIZONTAL_STROKE
0SMALL_CONTAINS_WITH_VERTICAL_BAR_AT_END_OF_HORIZONTAL_STROKE 0CONTAINS_WITH_OVERBAR
0SMALL_CONTAINS_WITH_OVERBAR 0Z_NOTATION_BAG_MEMBERSHIP 0DIAMETER_SIGN 0ELECTRIC_ARROW 0HOUSE
0UP_ARROWHEAD 0DOWN_ARROWHEAD 0PROJECTIVE 0PERSPECTIVE 0WAVY_LINE 0LEFT_CEILING 0RIGHT_CEILING
0LEFT_FLOOR 0RIGHT_FLOOR 0BOTTOM_RIGHT_CROP 1LEFT_CROP 0TOP_RIGHT_CROP 1LEFT_CROP
0REVERSED_NOT_SIGN 0SQUARE_LOZENGE 0ARC 0SEGMENT 0SECTOR 0TELEPHONE_RECORDER 0POSITION_INDICATOR
0VIEWDATA_SQUARE 0PLACE_OF_INTEREST_SIGN 0TURNED_NOT_SIGN 0WATCH 0HOURGLASS 0TOP_LEFT_CORNER
1RIGHT_CORNER 0BOTTOM_LEFT_CORNER 1RIGHT_CORNER 0TOP_HALF_INTEGRAL 0BOTTOM_HALF_INTEGRAL 0FROWN
0SMILE 0UP_ARROWHEAD_BETWEEN_TWO_HORIZONTAL_BARS 0OPTION_KEY 0ERASE_TO_THE_RIGHT
0X_IN_A_RECTANGLE_BOX 0KEYBOARD 0LEFT-POINTING_ANGLE_BRACKET 0RIGHT-POINTING_ANGLE_BRACKET
0ERASE_TO_THE_LEFT 0BENZENE_RING 0CYLINDRICITY 0ALL_AROUND-PROFILE 0SYMMETRY 0TOTAL_RUNOUT
0DIMENSION_ORIGIN 0CONICAL_TAPER 0SLOPE 0COUNTERBORE 0COUNTERSINK 0APL_FUNCTIONAL_SYMBOL_I-BEAM
3SQUISH_QUAD 3QUAD_EQUAL 4DIVIDE 4DIAMOND 4JOT 4CIRCLE 3CIRCLE_STILE 4JOT 3SLASH_BAR
3BACKSLASH_BAR 3QUAD_SLASH 4BACKSLASH 4LESS-THAN 4GREATER-THAN 3LEFTWARDS_VANE 3RIGHTWARDS_VANE
3QUAD_LEFTWARDS_ARROW 4RIGHTWARDS_ARROW 3CIRCLE_BACKSLASH 3DOWN_TACK_UNDERBAR 3DELTA_STILE
3QUAD_DOWN_CARET 4DELTA 3DOWN_TACK_JOT 3UPWARDS_VANE 3QUAD_UPWARDS_ARROW 3UP_TACK_OVERBAR
3DEL_STILE 3QUAD_UP_CARET 4DEL 3UP_TACK_JOT 3DOWNWARDS_VANE 3QUAD_DOWNWARDS_ARROW 3QUOTE_UNDERBAR
3DELTA_UNDERBAR 3DIAMOND_UNDERBAR 3JOT_UNDERBAR 3CIRCLE_UNDERBAR 3UP_SHOE_JOT 3QUOTE_QUAD
3CIRCLE_STAR 3QUAD_COLON 3UP_TACK_DIAERESIS 3DEL_DIAERESIS 3STAR_DIAERESIS 3JOT_DIAERESIS
3CIRCLE_DIAERESIS 3DOWN_SHOE_STILE 3LEFT_SHOE_STILE 3TILDE_DIAERESIS 3GREATER-THAN_DIAERESIS
3COMMA_BAR 3DEL_TILDE 3ZILDE 3STILE_TILDE 3SEMICOLON_UNDERBAR 3QUAD_NOT_EQUAL 4QUESTION
3DOWN_CARET_TILDE 3UP_CARET_TILDE 3IOTA 3RHO 3OMEGA 3ALPHA_UNDERBAR 3EPSILON_UNDERBAR
3IOTA_UNDERBAR 3OMEGA_UNDERBAR 3ALPHA 0NOT_CHECK_MARK 0RIGHT_ANGLE_WITH_DOWNWARDS_ZIGZAG_ARROW
0SHOULDERED_OPEN_BOX 0BELL_SYMBOL 0VERTICAL_LINE_WITH_MIDDLE_DOT 0INSERTION_SYMBOL
0CONTINUOUS_UNDERLINE_SYMBOL 0DISCONTINUOUS_UNDERLINE_SYMBOL 0EMPHASIS_SYMBOL 0COMPOSITION_SYMBOL
0WHITE_SQUARE_WITH_CENTRE_VERTICAL_LINE 0ENTER_SYMBOL 0ALTERNATIVE_KEY_SYMBOL 0HELM_SYMBOL
0CIRCLED_HORIZONTAL_BAR_WITH_NOTCH 1TRIANGLE_DOWN 0BROKEN_CIRCLE_WITH_NORTHWEST_ARROW 0UNDO_SYMBOL
0MONOSTABLE_SYMBOL 0HYSTERESIS_SYMBOL 0OPEN-CIRCUIT-OUTPUT_H-TYPE_SYMBOL 1L-TYPE_SYMBOL
0PASSIVE-PULL-DOWN-OUTPUT_SYMBOL 0PASSIVE-PULL-UP-OUTPUT_SYMBOL 0DIRECT_CURRENT_SYMBOL_FORM_TWO
0SOFTWARE-FUNCTION_SYMBOL 0APL_FUNCTIONAL_SYMBOL_QUAD 0DECIMAL_SEPARATOR_KEY_SYMBOL 0PREVIOUS_PAGE
0NEXT_PAGE 0PRINT_SCREEN_SYMBOL 0CLEAR_SCREEN_SYMBOL 0LEFT_PARENTHESIS_UPPER_HOOK 2EXTENSION
2LOWER_HOOK 0RIGHT_PARENTHESIS_UPPER_HOOK 2EXTENSION 2LOWER_HOOK 0LEFT_SQUARE_BRACKET_UPPER_CORNER
3EXTENSION 3LOWER_CORNER 0RIGHT_SQUARE_BRACKET_UPPER_CORNER 3EXTENSION 3LOWER_CORNER
0LEFT_CURLY_BRACKET_UPPER_HOOK 3MIDDLE_PIECE 3LOWER_HOOK 0CURLY_BRACKET_EXTENSION
0RIGHT_CURLY_BRACKET_UPPER_HOOK 3MIDDLE_PIECE 3LOWER_HOOK 0INTEGRAL_EXTENSION
0HORIZONTAL_LINE_EXTENSION 0UPPER_LEFT_OR_LOWER_RIGHT_CURLY_BRACKET_SECTION
1RIGHT_OR_LOWER_LEFT_CURLY_BRACKET_SECTION 0SUMMATION_TOP 1BOTTOM 0TOP_SQUARE_BRACKET
0BOTTOM_SQUARE_BRACKET 3OVER_TOP_SQUARE_BRACKET 0RADICAL_SYMBOL_BOTTOM 0LEFT_VERTICAL_BOX_LINE
0RIGHT_VERTICAL_BOX_LINE 0HORIZONTAL_SCAN_LINE-1 2LINE-3 2LINE-7 2LINE-9
0DENTISTRY_SYMBOL_LIGHT_VERTICAL_AND_TOP_RIGHT 5BOTTOM_RIGHT 4WITH_CIRCLE
3DOWN_AND_HORIZONTAL_WITH_CIRCLE 3UP_AND_HORIZONTAL_WITH_CIRCLE 3VERTICAL_WITH_TRIANGLE
3DOWN_AND_HORIZONTAL_WITH_TRIANGLE 3UP_AND_HORIZONTAL_WITH_TRIANGLE 3VERTICAL_AND_WAVE
3DOWN_AND_HORIZONTAL_WITH_WAVE 3UP_AND_HORIZONTAL_WITH_WAVE 3DOWN_AND_HORIZONTAL
3UP_AND_HORIZONTAL 3VERTICAL_AND_TOP_LEFT 5BOTTOM_LEFT 0SQUARE_FOOT 0RETURN_SYMBOL 0EJECT_SYMBOL
0VERTICAL_LINE_EXTENSION 0METRICAL_BREVE 1LONG_OVER_SHORT 1SHORT_OVER_LONG 1LONG_OVER_TWO_SHORTS
1TWO_SHORTS_OVER_LONG 3JOINED 1TRISEME 1TETRASEME 1PENTASEME 0EARTH_GROUND 0FUSE 0TOP_PARENTHESIS
0BOTTOM_PARENTHESIS 0TOP_CURLY_BRACKET 0BOTTOM_CURLY_BRACKET 0TOP_TORTOISE_SHELL_BRACKET
0BOTTOM_TORTOISE_SHELL_BRACKET 0WHITE_TRAPEZIUM 0BENZENE_RING_WITH_CIRCLE 0STRAIGHTNESS 0FLATNESS
0AC_CURRENT 0ELECTRICAL_INTERSECTION 0DECIMAL_EXPONENT_SYMBOL
0BLACK_RIGHT-POINTING_DOUBLE_TRIANGLE 1LEFT-POINTING_DOUBLE_TRIANGLE 1UP-POINTING_DOUBLE_TRIANGLE
1DOWN-POINTING_DOUBLE_TRIANGLE 1RIGHT-POINTING_DOUBLE_TRIANGLE_WITH_VERTICAL_BAR
1LEFT-POINTING_DOUBLE_TRIANGLE_WITH_VERTICAL_BAR 1RIGHT-POINTING_TRIANGLE_WITH_DOUBLE_VERTICAL_BAR
0ALARM_CLOCK 0STOPWATCH 0TIMER_CLOCK 0HOURGLASS_WITH_FLOWING_SAND
0BLACK_MEDIUM_LEFT-POINTING_TRIANGLE 2RIGHT-POINTING_TRIANGLE 2UP-POINTING_TRIANGLE
2DOWN-POINTING_TRIANGLE 0DOUBLE_VERTICAL_BAR 0BLACK_SQUARE_FOR_STOP 1CIRCLE_FOR_RECORD
0POWER_SYMBOL 1ON-OFF_SYMBOL 1ON_SYMBOL 1SLEEP_SYMBOL 0OBSERVER_EYE_SYMBOL 0SYMBOL_FOR_NULL
2START_OF_HEADING 4TEXT 2END_OF_TEXT 4TRANSMISSION 2ENQUIRY 2ACKNOWLEDGE 2BELL 2BACKSPACE
2HORIZONTAL_TABULATION 2LINE_FEED 2VERTICAL_TABULATION 2FORM_FEED 2CARRIAGE_RETURN 2SHIFT_OUT 3IN
2DATA_LINK_ESCAPE 2DEVICE_CONTROL_ONE 4TWO 4THREE 4FOUR 2NEGATIVE_ACKNOWLEDGE 2SYNCHRONOUS_IDLE
2END_OF_TRANSMISSION_BLOCK 2CANCEL 2END_OF_MEDIUM 2SUBSTITUTE 2ESCAPE 2FILE_SEPARATOR
2GROUP_SEPARATOR 2RECORD_SEPARATOR 2UNIT_SEPARATOR 2SPACE 2DELETE 0BLANK_SYMBOL 0OPEN_BOX
0SYMBOL_FOR_NEWLINE 2DELETE_FORM_TWO 2SUBSTITUTE_FORM_TWO @2440 0OCR_HOOK 1CHAIR 1FORK
1INVERTED_FORK 1BELT_BUCKLE 1BOW_TIE 1BRANCH_BANK_IDENTIFICATION 1AMOUNT_OF_CHECK 1DASH
1CUSTOMER_ACCOUNT_NUMBER 1DOUBLE_BACKSLASH @2460 0CIRCLED_DIGIT_ONE 2TWO 2THREE 2FOUR 2FIVE 2SIX
2SEVEN 2EIGHT 2NINE 1NUMBER_TEN 2ELEVEN 2TWELVE 2THIRTEEN 2FOURTEEN 2FIFTEEN 2SIXTEEN 2SEVENTEEN
2EIGHTEEN 2NINETEEN 2TWENTY 0PARENTHESIZED_DIGIT_ONE 2TWO 2THREE 2FOUR 2FIVE 2SIX 2SEVEN 2EIGHT
2NINE 1NUMBER_TEN 2ELEVEN 2TWELVE 2THIRTEEN 2FOURTEEN 2FIFTEEN 2SIXTEEN 2SEVENTEEN 2EIGHTEEN
2NINETEEN 2TWENTY 0DIGIT_ONE_FULL_STOP 1TWO_FULL_STOP 1THREE_FULL_STOP 1FOUR_FULL_STOP
1FIVE_FULL_STOP 1SIX_FULL_STOP 1SEVEN_FULL_STOP 1EIGHT_FULL_STOP 1NINE_FULL_STOP
0NUMBER_TEN_FULL_STOP 1ELEVEN_FULL_STOP 1TWELVE_FULL_STOP 1THIRTEEN_FULL_STOP 1FOURTEEN_FULL_STOP
1FIFTEEN_FULL_STOP 1SIXTEEN_FULL_STOP 1SEVENTEEN_FULL_STOP 1EIGHTEEN_FULL_STOP 1NINETEEN_FULL_STOP
1TWENTY_FULL_STOP 0PARENTHESIZED_LATIN_SMALL_LETTER_A 4B 4C 4D 4E 4F 4G 4H 4I 4J 4K 4L 4M 4N 4O 4P
4Q 4R 4S 4T 4U 4V 4W 4X 4Y 4Z 0CIRCLED_LATIN_CAPITAL_LETTER_A 4B 4C 4D 4E 4F 4G 4H 4I 4J 4K 4L 4M
4N 4O 4P 4Q 4R 4S 4T 4U 4V 4W 4X 4Y 4Z 2SMALL_LETTER_A 4B 4C 4D 4E 4F 4G 4H 4I 4J 4K 4L 4M 4N 4O
4P 4Q 4R 4S 4T 4U 4V 4W 4X 4Y 4Z 1DIGIT_ZERO 0NEGATIVE_CIRCLED_NUMBER_ELEVEN 3TWELVE 3THIRTEEN
3FOURTEEN 3FIFTEEN 3SIXTEEN 3SEVENTEEN 3EIGHTEEN 3NINETEEN 3TWENTY 0DOUBLE_CIRCLED_DIGIT_ONE 3TWO
3THREE 3FOUR 3FIVE 3SIX 3SEVEN 3EIGHT 3NINE 2NUMBER_TEN 0NEGATIVE_CIRCLED_DIGIT_ZERO
0BOX_DRAWINGS_LIGHT_HORIZONTAL 2HEAVY_HORIZONTAL 2LIGHT_VERTICAL 2HEAVY_VERTICAL
2LIGHT_TRIPLE_DASH_HORIZONTAL 2HEAVY_TRIPLE_DASH_HORIZONTAL 2LIGHT_TRIPLE_DASH_VERTICAL
2HEAVY_TRIPLE_DASH_VERTICAL 2LIGHT_QUADRUPLE_DASH_HORIZONTAL 2HEAVY_QUADRUPLE_DASH_HORIZONTAL
2LIGHT_QUADRUPLE_DASH_VERTICAL 2HEAVY_QUADRUPLE_DASH_VERTICAL 2LIGHT_DOWN_AND_RIGHT
2DOWN_LIGHT_AND_RIGHT_HEAVY 3HEAVY_AND_RIGHT_LIGHT 2HEAVY_DOWN_AND_RIGHT 2LIGHT_DOWN_AND_LEFT
2DOWN_LIGHT_AND_LEFT_HEAVY 3HEAVY_AND_LEFT_LIGHT 2HEAVY_DOWN_AND_LEFT 2LIGHT_UP_AND_RIGHT
2UP_LIGHT_AND_RIGHT_HEAVY 3HEAVY_AND_RIGHT_LIGHT 2HEAVY_UP_AND_RIGHT 2LIGHT_UP_AND_LEFT
2UP_LIGHT_AND_LEFT_HEAVY 3HEAVY_AND_LEFT_LIGHT 2HEAVY_UP_AND_LEFT 2LIGHT_VERTICAL_AND_RIGHT
2VERTICAL_LIGHT_AND_RIGHT_HEAVY 2UP_HEAVY_AND_RIGHT_DOWN_LIGHT 2DOWN_HEAVY_AND_RIGHT_UP_LIGHT
2VERTICAL_HEAVY_AND_RIGHT_LIGHT 2DOWN_LIGHT_AND_RIGHT_UP_HEAVY 2UP_LIGHT_AND_RIGHT_DOWN_HEAVY
2HEAVY_VERTICAL_AND_RIGHT 2LIGHT_VERTICAL_AND_LEFT 2VERTICAL_LIGHT_AND_LEFT_HEAVY
2UP_HEAVY_AND_LEFT_DOWN_LIGHT 2DOWN_HEAVY_AND_LEFT_UP_LIGHT 2VERTICAL_HEAVY_AND_LEFT_LIGHT
2DOWN_LIGHT_AND_LEFT_UP_HEAVY 2UP_LIGHT_AND_LEFT_DOWN_HEAVY 2HEAVY_VERTICAL_AND_LEFT
2LIGHT_DOWN_AND_HORIZONTAL 2LEFT_HEAVY_AND_RIGHT_DOWN_LIGHT 2RIGHT_HEAVY_AND_LEFT_DOWN_LIGHT
2DOWN_LIGHT_AND_HORIZONTAL_HEAVY 3HEAVY_AND_HORIZONTAL_LIGHT 2RIGHT_LIGHT_AND_LEFT_DOWN_HEAVY
2LEFT_LIGHT_AND_RIGHT_DOWN_HEAVY 2HEAVY_DOWN_AND_HORIZONTAL 2LIGHT_UP_AND_HORIZONTAL
2LEFT_HEAVY_AND_RIGHT_UP_LIGHT 2RIGHT_HEAVY_AND_LEFT_UP_LIGHT 2UP_LIGHT_AND_HORIZONTAL_HEAVY
3HEAVY_AND_HORIZONTAL_LIGHT 2RIGHT_LIGHT_AND_LEFT_UP_HEAVY 2LEFT_LIGHT_AND_RIGHT_UP_HEAVY
2HEAVY_UP_AND_HORIZONTAL 2LIGHT_VERTICAL_AND_HORIZONTAL 2LEFT_HEAVY_AND_RIGHT_VERTICAL_LIGHT
2RIGHT_HEAVY_AND_LEFT_VERTICAL_LIGHT 2VERTICAL_LIGHT_AND_HORIZONTAL_HEAVY
2UP_HEAVY_AND_DOWN_HORIZONTAL_LIGHT 2DOWN_HEAVY_AND_UP_HORIZONTAL_LIGHT
2VERTICAL_HEAVY_AND_HORIZONTAL_LIGHT 2LEFT_UP_HEAVY_AND_RIGHT_DOWN_LIGHT
2RIGHT_UP_HEAVY_AND_LEFT_DOWN_LIGHT 2LEFT_DOWN_HEAVY_AND_RIGHT_UP_LIGHT
2RIGHT_DOWN_HEAVY_AND_LEFT_UP_LIGHT 2DOWN_LIGHT_AND_UP_HORIZONTAL_HEAVY
2UP_LIGHT_AND_DOWN_HORIZONTAL_HEAVY 2RIGHT_LIGHT_AND_LEFT_VERTICAL_HEAVY
2LEFT_LIGHT_AND_RIGHT_VERTICAL_HEAVY 2HEAVY_VERTICAL_AND_HORIZONTAL 2LIGHT_DOUBLE_DASH_HORIZONTAL
2HEAVY_DOUBLE_DASH_HORIZONTAL 2LIGHT_DOUBLE_DASH_VERTICAL 2HEAVY_DOUBLE_DASH_VERTICAL
2DOUBLE_HORIZONTAL 3VERTICAL 2DOWN_SINGLE_AND_RIGHT_DOUBLE 3DOUBLE_AND_RIGHT_SINGLE
2DOUBLE_DOWN_AND_RIGHT 2DOWN_SINGLE_AND_LEFT_DOUBLE 3DOUBLE_AND_LEFT_SINGLE 2DOUBLE_DOWN_AND_LEFT
2UP_SINGLE_AND_RIGHT_DOUBLE 3DOUBLE_AND_RIGHT_SINGLE 2DOUBLE_UP_AND_RIGHT
2UP_SINGLE_AND_LEFT_DOUBLE 3DOUBLE_AND_LEFT_SINGLE 2DOUBLE_UP_AND_LEFT
2VERTICAL_SINGLE_AND_RIGHT_DOUBLE 3DOUBLE_AND_RIGHT_SINGLE 2DOUBLE_VERTICAL_AND_RIGHT
2VERTICAL_SINGLE_AND_LEFT_DOUBLE 3DOUBLE_AND_LEFT_SINGLE 2DOUBLE_VERTICAL_AND_LEFT
2DOWN_SINGLE_AND_HORIZONTAL_DOUBLE 3DOUBLE_AND_HORIZONTAL_SINGLE 2DOUBLE_DOWN_AND_HORIZONTAL
2UP_SINGLE_AND_HORIZONTAL_DOUBLE 3DOUBLE_AND_HORIZONTAL_SINGLE 2DOUBLE_UP_AND_HORIZONTAL
2VERTICAL_SINGLE_AND_HORIZONTAL_DOUBLE 3DOUBLE_AND_HORIZONTAL_SINGLE
2DOUBLE_VERTICAL_AND_HORIZONTAL 2LIGHT_ARC_DOWN_AND_RIGHT 6LEFT 4UP_AND_LEFT 6RIGHT
3DIAGONAL_UPPER_RIGHT_TO_LOWER_LEFT 5LEFT_TO_LOWER_RIGHT 4CROSS 3LEFT 3UP 3RIGHT 3DOWN 2HEAVY_LEFT
3UP 3RIGHT 3DOWN 2LIGHT_LEFT_AND_HEAVY_RIGHT 3UP_AND_HEAVY_DOWN 2HEAVY_LEFT_AND_LIGHT_RIGHT
3UP_AND_LIGHT_DOWN 0UPPER_HALF_BLOCK 0LOWER_ONE_EIGHTH_BLOCK 2QUARTER_BLOCK 1THREE_EIGHTHS_BLOCK
1HALF_BLOCK 1FIVE_EIGHTHS_BLOCK 1THREE_QUARTERS_BLOCK 1SEVEN_EIGHTHS_BLOCK 0FULL_BLOCK
0LEFT_SEVEN_EIGHTHS_BLOCK 1THREE_QUARTERS_BLOCK 1FIVE_EIGHTHS_BLOCK 1HALF_BLOCK
1THREE_EIGHTHS_BLOCK 1ONE_QUARTER_BLOCK 2EIGHTH_BLOCK 0RIGHT_HALF_BLOCK 0LIGHT_SHADE 0MEDIUM_SHADE
0DARK_SHADE 0UPPER_ONE_EIGHTH_BLOCK 0RIGHT_ONE_EIGHTH_BLOCK 0QUADRANT_LOWER_LEFT 2RIGHT
1UPPER_LEFT 3AND_LOWER_LEFT_AND_LOWER_RIGHT 5RIGHT 4UPPER_RIGHT_AND_LOWER_LEFT 8RIGHT 2RIGHT
3AND_LOWER_LEFT 6AND_LOWER_RIGHT 0BLACK_SQUARE 0WHITE_SQUARE 2WITH_ROUNDED_CORNERS
2CONTAINING_BLACK_SMALL_SQUARE 0SQUARE_WITH_HORIZONTAL_FILL 2VERTICAL_FILL
2ORTHOGONAL_CROSSHATCH_FILL 2UPPER_LEFT_TO_LOWER_RIGHT_FILL 3RIGHT_TO_LOWER_LEFT_FILL
2DIAGONAL_CROSSHATCH_FILL 0BLACK_SMALL_SQUARE 0WHITE_SMALL_SQUARE 0BLACK_RECTANGLE
0WHITE_RECTANGLE 0BLACK_VERTICAL_RECTANGLE 0WHITE_VERTICAL_RECTANGLE 0BLACK_PARALLELOGRAM
0WHITE_PARALLELOGRAM 0BLACK_UP-POINTING_TRIANGLE 0WHITE_UP-POINTING_TRIANGLE
0BLACK_UP-POINTING_SMALL_TRIANGLE 0WHITE_UP-POINTING_SMALL_TRIANGLE 0BLACK_RIGHT-POINTING_TRIANGLE
0WHITE_RIGHT-POINTING_TRIANGLE 0BLACK_RIGHT-POINTING_SMALL_TRIANGLE
0WHITE_RIGHT-POINTING_SMALL_TRIANGLE 0BLACK_RIGHT-POINTING_POINTER 0WHITE_RIGHT-POINTING_POINTER
0BLACK_DOWN-POINTING_TRIANGLE 0WHITE_DOWN-POINTING_TRIANGLE 0BLACK_DOWN-POINTING_SMALL_TRIANGLE
0WHITE_DOWN-POINTING_SMALL_TRIANGLE 0BLACK_LEFT-POINTING_TRIANGLE 0WHITE_LEFT-POINTING_TRIANGLE
0BLACK_LEFT-POINTING_SMALL_TRIANGLE 0WHITE_LEFT-POINTING_SMALL_TRIANGLE
0BLACK_LEFT-POINTING_POINTER 0WHITE_LEFT-POINTING_POINTER 0BLACK_DIAMOND 0WHITE_DIAMOND
2CONTAINING_BLACK_SMALL_DIAMOND 0FISHEYE 0LOZENGE 0WHITE_CIRCLE 0DOTTED_CIRCLE
0CIRCLE_WITH_VERTICAL_FILL 0BULLSEYE 0BLACK_CIRCLE 0CIRCLE_WITH_LEFT_HALF_BLACK 2RIGHT_HALF_BLACK
2LOWER_HALF_BLACK 2UPPER_HALF_BLACK 3RIGHT_QUADRANT_BLACK 2ALL_BUT_UPPER_LEFT_QUADRANT_BLACK
0LEFT_HALF_BLACK_CIRCLE 0RIGHT_HALF_BLACK_CIRCLE 0INVERSE_BULLET 1WHITE_CIRCLE
0UPPER_HALF_INVERSE_WHITE_CIRCLE 0LOWER_HALF_INVERSE_WHITE_CIRCLE
0UPPER_LEFT_QUADRANT_CIRCULAR_ARC 1RIGHT_QUADRANT_CIRCULAR_ARC 0LOWER_RIGHT_QUADRANT_CIRCULAR_ARC
1LEFT_QUADRANT_CIRCULAR_ARC 0UPPER_HALF_CIRCLE 0LOWER_HALF_CIRCLE 0BLACK_LOWER_RIGHT_TRIANGLE
2LEFT_TRIANGLE 1UPPER_LEFT_TRIANGLE 2RIGHT_TRIANGLE 0WHITE_BULLET 0SQUARE_WITH_LEFT_HALF_BLACK
2RIGHT_HALF_BLACK 2UPPER_LEFT_DIAGONAL_HALF_BLACK 2LOWER_RIGHT_DIAGONAL_HALF_BLACK
0WHITE_SQUARE_WITH_VERTICAL_BISECTING_LINE 1UP-POINTING_TRIANGLE_WITH_DOT
0UP-POINTING_TRIANGLE_WITH_LEFT_HALF_BLACK 3RIGHT_HALF_BLACK 0LARGE_CIRCLE
0WHITE_SQUARE_WITH_UPPER_LEFT_QUADRANT 3LOWER_LEFT_QUADRANT 4RIGHT_QUADRANT 3UPPER_RIGHT_QUADRANT
1CIRCLE_WITH_UPPER_LEFT_QUADRANT 3LOWER_LEFT_QUADRANT 4RIGHT_QUADRANT 3UPPER_RIGHT_QUADRANT
0UPPER_LEFT_TRIANGLE 1RIGHT_TRIANGLE 0LOWER_LEFT_TRIANGLE 0WHITE_MEDIUM_SQUARE
0BLACK_MEDIUM_SQUARE 0WHITE_MEDIUM_SMALL_SQUARE 0BLACK_MEDIUM_SMALL_SQUARE 0LOWER_RIGHT_TRIANGLE
0BLACK_SUN_WITH_RAYS 0CLOUD 0UMBRELLA 0SNOWMAN 0COMET 0BLACK_STAR 0WHITE_STAR 0LIGHTNING
0THUNDERSTORM 0SUN 0ASCENDING_NODE 0DESCENDING_NODE 0CONJUNCTION 0OPPOSITION 0BLACK_TELEPHONE
0WHITE_TELEPHONE 0BALLOT_BOX 2WITH_CHECK 3X 0SALTIRE 0UMBRELLA_WITH_RAIN_DROPS 0HOT_BEVERAGE
0WHITE_SHOGI_PIECE 0BLACK_SHOGI_PIECE 0SHAMROCK 0REVERSED_ROTATED_FLORAL_HEART_BULLET
0BLACK_LEFT_POINTING_INDEX 1RIGHT_POINTING_INDEX 0WHITE_LEFT_POINTING_INDEX 1UP_POINTING_INDEX
1RIGHT_POINTING_INDEX 1DOWN_POINTING_INDEX 0SKULL_AND_CROSSBONES 0CAUTION_SIGN 0RADIOACTIVE_SIGN
0BIOHAZARD_SIGN 0CADUCEUS 0ANKH 0ORTHODOX_CROSS 0CHI_RHO 0CROSS_OF_LORRAINE 2JERUSALEM
0STAR_AND_CRESCENT 0FARSI_SYMBOL 0ADI_SHAKTI 0HAMMER_AND_SICKLE 0PEACE_SYMBOL 0YIN_YANG
0TRIGRAM_FOR_HEAVEN 2LAKE 2FIRE 2THUNDER 2WIND 2WATER 2MOUNTAIN 2EARTH 0WHEEL_OF_DHARMA
0WHITE_FROWNING_FACE 1SMILING_FACE 0BLACK_SMILING_FACE 0WHITE_SUN_WITH_RAYS 0FIRST_QUARTER_MOON
0LAST_QUARTER_MOON 0MERCURY 0FEMALE_SIGN 0EARTH 0MALE_SIGN 0JUPITER 0SATURN 0URANUS 0NEPTUNE
0PLUTO 0ARIES 0TAURUS 0GEMINI 0CANCER 0LEO 0VIRGO 0LIBRA 0SCORPIUS 0SAGITTARIUS 0CAPRICORN
0AQUARIUS 0PISCES 0WHITE_CHESS_KING 2QUEEN 2ROOK 2BISHOP 2KNIGHT 2PAWN 0BLACK_CHESS_KING 2QUEEN
2ROOK 2BISHOP 2KNIGHT 2PAWN 1SPADE_SUIT 0WHITE_HEART_SUIT 1DIAMOND_SUIT 0BLACK_CLUB_SUIT
0WHITE_SPADE_SUIT 0BLACK_HEART_SUIT 1DIAMOND_SUIT 0WHITE_CLUB_SUIT 0HOT_SPRINGS 0QUARTER_NOTE
0EIGHTH_NOTE 0BEAMED_EIGHTH_NOTES 1SIXTEENTH_NOTES 0MUSIC_FLAT_SIGN 1NATURAL_SIGN 1SHARP_SIGN
0WEST_SYRIAC_CROSS 0EAST_SYRIAC_CROSS 0UNIVERSAL_RECYCLING_SYMBOL
0RECYCLING_SYMBOL_FOR_TYPE-1_PLASTICS 3TYPE-2_PLASTICS 3TYPE-3_PLASTICS 3TYPE-4_PLASTICS
3TYPE-5_PLASTICS 3TYPE-6_PLASTICS 3TYPE-7_PLASTICS 3GENERIC_MATERIALS
0BLACK_UNIVERSAL_RECYCLING_SYMBOL 0RECYCLED_PAPER_SYMBOL 0PARTIALLY-RECYCLED_PAPER_SYMBOL
0PERMANENT_PAPER_SIGN 0WHEELCHAIR_SYMBOL 0DIE_FACE-1 + + + + + 0WHITE_CIRCLE_WITH_DOT_RIGHT
3TWO_DOTS 0BLACK_CIRCLE_WITH_WHITE_DOT_RIGHT 3TWO_WHITE_DOTS 0MONOGRAM_FOR_YANG 2YIN
0DIGRAM_FOR_GREATER_YANG 2LESSER_YIN 3YANG 2GREATER_YIN 0WHITE_FLAG 0BLACK_FLAG 0HAMMER_AND_PICK
0ANCHOR 0CROSSED_SWORDS 0STAFF_OF_AESCULAPIUS 0SCALES 0ALEMBIC 0FLOWER 0GEAR 0STAFF_OF_HERMES
0ATOM_SYMBOL 0FLEUR-DE-LIS 0OUTLINED_WHITE_STAR 0THREE_LINES_CONVERGING_RIGHT 3LEFT 0WARNING_SIGN
0HIGH_VOLTAGE_SIGN 0DOUBLED_FEMALE_SIGN 1MALE_SIGN 0INTERLOCKED_FEMALE_AND_MALE_SIGN
0MALE_AND_FEMALE_SIGN 1WITH_STROKE_SIGN 3AND_MALE_AND_FEMALE_SIGN 0VERTICAL_MALE_WITH_STROKE_SIGN
0HORIZONTAL_MALE_WITH_STROKE_SIGN 0MEDIUM_WHITE_CIRCLE 1BLACK_CIRCLE 1SMALL_WHITE_CIRCLE
0MARRIAGE_SYMBOL 0DIVORCE_SYMBOL 0UNMARRIED_PARTNERSHIP_SYMBOL 0COFFIN 0FUNERAL_URN 0NEUTER 0CERES
0PALLAS 0JUNO 0VESTA 0CHIRON 0BLACK_MOON_LILITH 0SEXTILE 0SEMISEXTILE 0QUINCUNX 0SESQUIQUADRATE
0SOCCER_BALL 0BASEBALL 0SQUARED_KEY 0WHITE_DRAUGHTS_MAN 2KING 0BLACK_DRAUGHTS_MAN 2KING
0SNOWMAN_WITHOUT_SNOW 0SUN_BEHIND_CLOUD 0RAIN 0BLACK_SNOWMAN 0THUNDER_CLOUD_AND_RAIN
0TURNED_WHITE_SHOGI_PIECE 1BLACK_SHOGI_PIECE 0WHITE_DIAMOND_IN_SQUARE 0CROSSING_LANES
0DISABLED_CAR 0OPHIUCHUS 0PICK 0CAR_SLIDING 0HELMET_WITH_WHITE_CROSS 0CIRCLED_CROSSING_LANES
0CHAINS 0NO_ENTRY 0ALTERNATE_ONE-WAY_LEFT_WAY_TRAFFIC 0BLACK_TWO-WAY_LEFT_WAY_TRAFFIC
0WHITE_TWO-WAY_LEFT_WAY_TRAFFIC 0BLACK_LEFT_LANE_MERGE 0WHITE_LEFT_LANE_MERGE 0DRIVE_SLOW_SIGN
0HEAVY_WHITE_DOWN-POINTING_TRIANGLE 0LEFT_CLOSED_ENTRY 0SQUARED_SALTIRE
0FALLING_DIAGONAL_IN_WHITE_CIRCLE_IN_BLACK_SQUARE 0BLACK_TRUCK 0RESTRICTED_LEFT_ENTRY-1 +
0ASTRONOMICAL_SYMBOL_FOR_URANUS 0HEAVY_CIRCLE_WITH_STROKE_AND_TWO_DOTS_ABOVE 0PENTAGRAM
0RIGHT-HANDED_INTERLACED_PENTAGRAM 0LEFT-HANDED_INTERLACED_PENTAGRAM 0INVERTED_PENTAGRAM
0BLACK_CROSS_ON_SHIELD 0SHINTO_SHRINE 0CHURCH 0CASTLE 0HISTORIC_SITE 0GEAR_WITHOUT_HUB
1WITH_HANDLES 0MAP_SYMBOL_FOR_LIGHTHOUSE 0MOUNTAIN 0UMBRELLA_ON_GROUND 0FOUNTAIN 0FLAG_IN_HOLE
0FERRY 0SAILBOAT 0SQUARE_FOUR_CORNERS 0SKIER 0ICE_SKATE 0PERSON_WITH_BALL 0TENT
0JAPANESE_BANK_SYMBOL 0HEADSTONE_GRAVEYARD_SYMBOL 0FUEL_PUMP 0CUP_ON_BLACK_SQUARE
0WHITE_FLAG_WITH_HORIZONTAL_MIDDLE_BLACK_STRIPE 0BLACK_SAFETY_SCISSORS 0UPPER_BLADE_SCISSORS
0BLACK_SCISSORS 0LOWER_BLADE_SCISSORS 0WHITE_SCISSORS 1HEAVY_CHECK_MARK 0TELEPHONE_LOCATION_SIGN
0TAPE_DRIVE 0AIRPLANE 0ENVELOPE 0RAISED_FIST 1HAND 0VICTORY_HAND 0WRITING_HAND 0LOWER_RIGHT_PENCIL
0PENCIL 0UPPER_RIGHT_PENCIL 0WHITE_NIB 0BLACK_NIB 0CHECK_MARK 0HEAVY_CHECK_MARK 0MULTIPLICATION_X
0HEAVY_MULTIPLICATION_X 0BALLOT_X 0HEAVY_BALLOT_X 0OUTLINED_GREEK_CROSS 0HEAVY_GREEK_CROSS
0OPEN_CENTRE_CROSS 0HEAVY_OPEN_CENTRE_CROSS 0LATIN_CROSS 0SHADOWED_WHITE_LATIN_CROSS
0OUTLINED_LATIN_CROSS 0MALTESE_CROSS 0STAR_OF_DAVID 0FOUR_TEARDROP-SPOKED_ASTERISK
1BALLOON-SPOKED_ASTERISK 0HEAVY_FOUR_BALLOON-SPOKED_ASTERISK 0FOUR_CLUB-SPOKED_ASTERISK
0BLACK_FOUR_POINTED_STAR 0WHITE_FOUR_POINTED_STAR 0SPARKLES 0STRESS_OUTLINED_WHITE_STAR
0CIRCLED_WHITE_STAR 0OPEN_CENTRE_BLACK_STAR 0BLACK_CENTRE_WHITE_STAR 0OUTLINED_BLACK_STAR
0HEAVY_OUTLINED_BLACK_STAR 0PINWHEEL_STAR 0SHADOWED_WHITE_STAR 0HEAVY_ASTERISK
0OPEN_CENTRE_ASTERISK 0EIGHT_SPOKED_ASTERISK 1POINTED_BLACK_STAR 2PINWHEEL_STAR
0SIX_POINTED_BLACK_STAR 0EIGHT_POINTED_RECTILINEAR_BLACK_STAR
0HEAVY_EIGHT_POINTED_RECTILINEAR_BLACK_STAR 0TWELVE_POINTED_BLACK_STAR 0SIXTEEN_POINTED_ASTERISK
0TEARDROP-SPOKED_ASTERISK 0OPEN_CENTRE_TEARDROP-SPOKED_ASTERISK 0HEAVY_TEARDROP-SPOKED_ASTERISK
0SIX_PETALLED_BLACK_AND_WHITE_FLORETTE 0BLACK_FLORETTE 0WHITE_FLORETTE
0EIGHT_PETALLED_OUTLINED_BLACK_FLORETTE 0CIRCLED_OPEN_CENTRE_EIGHT_POINTED_STAR
0HEAVY_TEARDROP-SPOKED_PINWHEEL_ASTERISK 0SNOWFLAKE 0TIGHT_TRIFOLIATE_SNOWFLAKE
0HEAVY_CHEVRON_SNOWFLAKE 0SPARKLE 0HEAVY_SPARKLE 0BALLOON-SPOKED_ASTERISK
0EIGHT_TEARDROP-SPOKED_PROPELLER_ASTERISK 0HEAVY_EIGHT_TEARDROP-SPOKED_PROPELLER_ASTERISK
0CROSS_MARK 0SHADOWED_WHITE_CIRCLE 0NEGATIVE_SQUARED_CROSS_MARK
0LOWER_RIGHT_DROP-SHADOWED_WHITE_SQUARE 0UPPER_RIGHT_DROP-SHADOWED_WHITE_SQUARE
0LOWER_RIGHT_SHADOWED_WHITE_SQUARE 0UPPER_RIGHT_SHADOWED_WHITE_SQUARE
0BLACK_QUESTION_MARK_ORNAMENT 0WHITE_QUESTION_MARK_ORNAMENT 1EXCLAMATION_MARK_ORNAMENT
0BLACK_DIAMOND_MINUS_WHITE_X 0HEAVY_EXCLAMATION_MARK_SYMBOL 0LIGHT_VERTICAL_BAR
0MEDIUM_VERTICAL_BAR 0HEAVY_VERTICAL_BAR 1SINGLE_TURNED_COMMA_QUOTATION_MARK_ORNAMENT
2COMMA_QUOTATION_MARK_ORNAMENT 1DOUBLE_TURNED_COMMA_QUOTATION_MARK_ORNAMENT
2COMMA_QUOTATION_MARK_ORNAMENT 1LOW_SINGLE_COMMA_QUOTATION_MARK_ORNAMENT
2DOUBLE_COMMA_QUOTATION_MARK_ORNAMENT 0CURVED_STEM_PARAGRAPH_SIGN_ORNAMENT
0HEAVY_EXCLAMATION_MARK_ORNAMENT 1HEART_EXCLAMATION_MARK_ORNAMENT 1BLACK_HEART
0ROTATED_HEAVY_BLACK_HEART_BULLET 0FLORAL_HEART 0ROTATED_FLORAL_HEART_BULLET
0MEDIUM_LEFT_PARENTHESIS_ORNAMENT 1RIGHT_PARENTHESIS_ORNAMENT 1FLATTENED_LEFT_PARENTHESIS_ORNAMENT
2RIGHT_PARENTHESIS_ORNAMENT 1LEFT-POINTING_ANGLE_BRACKET_ORNAMENT
1RIGHT-POINTING_ANGLE_BRACKET_ORNAMENT 0HEAVY_LEFT-POINTING_ANGLE_QUOTATION_MARK_ORNAMENT
1RIGHT-POINTING_ANGLE_QUOTATION_MARK_ORNAMENT 1LEFT-POINTING_ANGLE_BRACKET_ORNAMENT
1RIGHT-POINTING_ANGLE_BRACKET_ORNAMENT 0LIGHT_LEFT_TORTOISE_SHELL_BRACKET_ORNAMENT
1RIGHT_TORTOISE_SHELL_BRACKET_ORNAMENT 0MEDIUM_LEFT_CURLY_BRACKET_ORNAMENT
1RIGHT_CURLY_BRACKET_ORNAMENT 0DINGBAT_NEGATIVE_CIRCLED_DIGIT_ONE 4TWO 4THREE 4FOUR 4FIVE 4SIX
4SEVEN 4EIGHT 4NINE 3NUMBER_TEN 1CIRCLED_SANS-SERIF_DIGIT_ONE 4TWO 4THREE 4FOUR 4FIVE 4SIX 4SEVEN
4EIGHT 4NINE 3NUMBER_TEN 1NEGATIVE_CIRCLED_SANS-SERIF_DIGIT_ONE 5TWO 5THREE 5FOUR 5FIVE 5SIX
5SEVEN 5EIGHT 5NINE 4NUMBER_TEN 0HEAVY_WIDE-HEADED_RIGHTWARDS_ARROW 1PLUS_SIGN 1MINUS_SIGN
1DIVISION_SIGN 1SOUTH_EAST_ARROW 1RIGHTWARDS_ARROW 1NORTH_EAST_ARROW
0DRAFTING_POINT_RIGHTWARDS_ARROW 0HEAVY_ROUND-TIPPED_RIGHTWARDS_ARROW
0TRIANGLE-HEADED_RIGHTWARDS_ARROW 0HEAVY_TRIANGLE-HEADED_RIGHTWARDS_ARROW
0DASHED_TRIANGLE-HEADED_RIGHTWARDS_ARROW 0HEAVY_DASHED_TRIANGLE-HEADED_RIGHTWARDS_ARROW
0BLACK_RIGHTWARDS_ARROW 0THREE-D_TOP-LIGHTED_RIGHTWARDS_ARROWHEAD
1BOTTOM-LIGHTED_RIGHTWARDS_ARROWHEAD 0BLACK_RIGHTWARDS_ARROWHEAD
0HEAVY_BLACK_CURVED_DOWNWARDS_AND_RIGHTWARDS_ARROW 3UPWARDS_AND_RIGHTWARDS_ARROW
0SQUAT_BLACK_RIGHTWARDS_ARROW 0HEAVY_CONCAVE-POINTED_BLACK_RIGHTWARDS_ARROW
0RIGHT-SHADED_WHITE_RIGHTWARDS_ARROW 0LEFT-SHADED_WHITE_RIGHTWARDS_ARROW
0BACK-TILTED_SHADOWED_WHITE_RIGHTWARDS_ARROW 0FRONT-TILTED_SHADOWED_WHITE_RIGHTWARDS_ARROW
0HEAVY_LOWER_RIGHT-SHADOWED_WHITE_RIGHTWARDS_ARROW 1UPPER_RIGHT-SHADOWED_WHITE_RIGHTWARDS_ARROW
0NOTCHED_LOWER_RIGHT-SHADOWED_WHITE_RIGHTWARDS_ARROW 0CURLY_LOOP
0NOTCHED_UPPER_RIGHT-SHADOWED_WHITE_RIGHTWARDS_ARROW 0CIRCLED_HEAVY_WHITE_RIGHTWARDS_ARROW
0WHITE-FEATHERED_RIGHTWARDS_ARROW 0BLACK-FEATHERED_SOUTH_EAST_ARROW 1RIGHTWARDS_ARROW
1NORTH_EAST_ARROW 0HEAVY_BLACK-FEATHERED_SOUTH_EAST_ARROW 2RIGHTWARDS_ARROW 2NORTH_EAST_ARROW
0TEARDROP-BARBED_RIGHTWARDS_ARROW 0HEAVY_TEARDROP-SHANKED_RIGHTWARDS_ARROW
0WEDGE-TAILED_RIGHTWARDS_ARROW 0HEAVY_WEDGE-TAILED_RIGHTWARDS_ARROW
0OPEN-OUTLINED_RIGHTWARDS_ARROW 0DOUBLE_CURLY_LOOP 0THREE_DIMENSIONAL_ANGLE
0WHITE_TRIANGLE_CONTAINING_SMALL_WHITE_TRIANGLE 0PERPENDICULAR 0OPEN_SUBSET 1SUPERSET
0LEFT_S-SHAPED_BAG_DELIMITER 0RIGHT_S-SHAPED_BAG_DELIMITER 0OR_WITH_DOT_INSIDE
0REVERSE_SOLIDUS_PRECEDING_SUBSET 0SUPERSET_PRECEDING_SOLIDUS 0VERTICAL_BAR_WITH_HORIZONTAL_STROKE
0MATHEMATICAL_RISING_DIAGONAL 0LONG_DIVISION 0MATHEMATICAL_FALLING_DIAGONAL 0SQUARED_LOGICAL_AND
2OR 0WHITE_DIAMOND_WITH_CENTRED_DOT 0AND_WITH_DOT 0ELEMENT_OF_OPENING_UPWARDS
0LOWER_RIGHT_CORNER_WITH_DOT 0UPPER_LEFT_CORNER_WITH_DOT 0LEFT_OUTER_JOIN 0RIGHT_OUTER_JOIN
0FULL_OUTER_JOIN 0LARGE_UP_TACK 1DOWN_TACK 0LEFT_AND_RIGHT_DOUBLE_TURNSTILE 3TACK 1MULTIMAP
0LONG_RIGHT_TACK 1LEFT_TACK 0UP_TACK_WITH_CIRCLE_ABOVE 0LOZENGE_DIVIDED_BY_HORIZONTAL_RULE
0WHITE_CONCAVE-SIDED_DIAMOND 3WITH_LEFTWARDS_TICK 4RIGHTWARDS_TICK 1SQUARE_WITH_LEFTWARDS_TICK
3RIGHTWARDS_TICK 0MATHEMATICAL_LEFT_WHITE_SQUARE_BRACKET 1RIGHT_WHITE_SQUARE_BRACKET
1LEFT_ANGLE_BRACKET 1RIGHT_ANGLE_BRACKET 1LEFT_DOUBLE_ANGLE_BRACKET 1RIGHT_DOUBLE_ANGLE_BRACKET
1LEFT_WHITE_TORTOISE_SHELL_BRACKET 1RIGHT_WHITE_TORTOISE_SHELL_BRACKET 1LEFT_FLATTENED_PARENTHESIS
1RIGHT_FLATTENED_PARENTHESIS 0UPWARDS_QUADRUPLE_ARROW 0DOWNWARDS_QUADRUPLE_ARROW
0ANTICLOCKWISE_GAPPED_CIRCLE_ARROW 0CLOCKWISE_GAPPED_CIRCLE_ARROW 0RIGHT_ARROW_WITH_CIRCLED_PLUS
0LONG_LEFTWARDS_ARROW 1RIGHTWARDS_ARROW 1LEFT_RIGHT_ARROW 1LEFTWARDS_DOUBLE_ARROW
1RIGHTWARDS_DOUBLE_ARROW 1LEFT_RIGHT_DOUBLE_ARROW 1LEFTWARDS_ARROW_FROM_BAR
1RIGHTWARDS_ARROW_FROM_BAR 1LEFTWARDS_DOUBLE_ARROW_FROM_BAR 1RIGHTWARDS_DOUBLE_ARROW_FROM_BAR
2SQUIGGLE_ARROW 0BRAILLE_PATTERN_BLANK 2DOTS-1 + 2DOTS-12 2DOTS-3 2DOTS-13 2DOTS-23 2DOTS-123
2DOTS-4 2DOTS-14 2DOTS-24 2DOTS-124 2DOTS-34 2DOTS-134 2DOTS-234 2DOTS-1234 2DOTS-5 2DOTS-15
2DOTS-25 2DOTS-125 2DOTS-35 2DOTS-135 2DOTS-235 2DOTS-1235 2DOTS-45 2DOTS-145 2DOTS-245 2DOTS-1245
2DOTS-345 2DOTS-1345 2DOTS-2345 2DOTS-12345 2DOTS-6 2DOTS-16 2DOTS-26 2DOTS-126 2DOTS-36 2DOTS-136
2DOTS-236 2DOTS-1236 2DOTS-46 2DOTS-146 2DOTS-246 2DOTS-1246 2DOTS-346 2DOTS-1346 2DOTS-2346
2DOTS-12346 2DOTS-56 2DOTS-156 2DOTS-256 2DOTS-1256 2DOTS-356 2DOTS-1356 2DOTS-2356 2DOTS-12356
2DOTS-456 2DOTS-1456 2DOTS-2456 2DOTS-12456 2DOTS-3456 2DOTS-13456 2DOTS-23456 2DOTS-123456
2DOTS-7 2DOTS-17 2DOTS-27 2DOTS-127 2DOTS-37 2DOTS-137 2DOTS-237 2DOTS-1237 2DOTS-47 2DOTS-147
2DOTS-247 2DOTS-1247 2DOTS-347 2DOTS-1347 2DOTS-2347 2DOTS-12347 2DOTS-57 2DOTS-157 2DOTS-257
2DOTS-1257 2DOTS-357 2DOTS-1357 2DOTS-2357 2DOTS-12357 2DOTS-457 2DOTS-1457 2DOTS-2457 2DOTS-12457
2DOTS-3457 2DOTS-13457 2DOTS-23457 2DOTS-123457 2DOTS-67 2DOTS-167 2DOTS-267 2DOTS-1267 2DOTS-367
2DOTS-1367 2DOTS-2367 2DOTS-12367 2DOTS-467 2DOTS-1467 2DOTS-2467 2DOTS-12467 2DOTS-3467
2DOTS-13467 2DOTS-23467 2DOTS-123467 2DOTS-567 2DOTS-1567 2DOTS-2567 2DOTS-12567 2DOTS-3567
2DOTS-13567 2DOTS-23567 2DOTS-123567 2DOTS-4567 2DOTS-14567 2DOTS-24567 2DOTS-124567 2DOTS-34567
2DOTS-134567 2DOTS-234567 2DOTS-1234567 2DOTS-8 2DOTS-18 2DOTS-28 2DOTS-128 2DOTS-38 2DOTS-138
2DOTS-238 2DOTS-1238 2DOTS-48 2DOTS-148 2DOTS-248 2DOTS-1248 2DOTS-348 2DOTS-1348 2DOTS-2348
2DOTS-12348 2DOTS-58 2DOTS-158 2DOTS-258 2DOTS-1258 2DOTS-358 2DOTS-1358 2DOTS-2358 2DOTS-12358
2DOTS-458 2DOTS-1458 2DOTS-2458 2DOTS-12458 2DOTS-3458 2DOTS-13458 2DOTS-23458 2DOTS-123458
2DOTS-68 2DOTS-168 2DOTS-268 2DOTS-1268 2DOTS-368 2DOTS-1368 2DOTS-2368 2DOTS-12368 2DOTS-468
2DOTS-1468 2DOTS-2468 2DOTS-12468 2DOTS-3468 2DOTS-13468 2DOTS-23468 2DOTS-123468 2DOTS-568
2DOTS-1568 2DOTS-2568 2DOTS-12568 2DOTS-3568 2DOTS-13568 2DOTS-23568 2DOTS-123568 2DOTS-4568
2DOTS-14568 2DOTS-24568 2DOTS-124568 2DOTS-34568 2DOTS-134568 2DOTS-234568 2DOTS-1234568 2DOTS-78
2DOTS-178 2DOTS-278 2DOTS-1278 2DOTS-378 2DOTS-1378 2DOTS-2378 2DOTS-12378 2DOTS-478 2DOTS-1478
2DOTS-2478 2DOTS-12478 2DOTS-3478 2DOTS-13478 2DOTS-23478 2DOTS-123478 2DOTS-578 2DOTS-1578
2DOTS-2578 2DOTS-12578 2DOTS-3578 2DOTS-13578 2DOTS-23578 2DOTS-123578 2DOTS-4578 2DOTS-14578
2DOTS-24578 2DOTS-124578 2DOTS-34578 2DOTS-134578 2DOTS-234578 2DOTS-1234578 2DOTS-678 2DOTS-1678
2DOTS-2678 2DOTS-12678 2DOTS-3678 2DOTS-13678 2DOTS-23678 2DOTS-123678 2DOTS-4678 2DOTS-14678
2DOTS-24678 2DOTS-124678 2DOTS-34678 2DOTS-134678 2DOTS-234678 2DOTS-1234678 2DOTS-5678
2DOTS-15678 2DOTS-25678 2DOTS-125678 2DOTS-35678 2DOTS-135678 2DOTS-235678 2DOTS-1235678
2DOTS-45678 2DOTS-145678 2DOTS-245678 2DOTS-1245678 2DOTS-345678 2DOTS-1345678 2DOTS-2345678
2DOTS-12345678 0RIGHTWARDS_TWO-HEADED_ARROW_WITH_VERTICAL_STROKE 4DOUBLE_VERTICAL_STROKE
0LEFTWARDS_DOUBLE_ARROW_WITH_VERTICAL_STROKE 0RIGHTWARDS_DOUBLE_ARROW_WITH_VERTICAL_STROKE
0LEFT_RIGHT_DOUBLE_ARROW_WITH_VERTICAL_STROKE 0RIGHTWARDS_TWO-HEADED_ARROW_FROM_BAR
0LEFTWARDS_DOUBLE_ARROW_FROM_BAR 0RIGHTWARDS_DOUBLE_ARROW_FROM_BAR
0DOWNWARDS_ARROW_WITH_HORIZONTAL_STROKE 0UPWARDS_ARROW_WITH_HORIZONTAL_STROKE 1TRIPLE_ARROW
0DOWNWARDS_TRIPLE_ARROW 0LEFTWARDS_DOUBLE_DASH_ARROW 0RIGHTWARDS_DOUBLE_DASH_ARROW
0LEFTWARDS_TRIPLE_DASH_ARROW 0RIGHTWARDS_TRIPLE_DASH_ARROW 1TWO-HEADED_TRIPLE_DASH_ARROW
1ARROW_WITH_DOTTED_STEM 0UPWARDS_ARROW_TO_BAR 0DOWNWARDS_ARROW_TO_BAR
0RIGHTWARDS_ARROW_WITH_TAIL_WITH_VERTICAL_STROKE 5DOUBLE_VERTICAL_STROKE
1TWO-HEADED_ARROW_WITH_TAIL 5WITH_VERTICAL_STROKE 6DOUBLE_VERTICAL_STROKE 0LEFTWARDS_ARROW-TAIL
0RIGHTWARDS_ARROW-TAIL 0LEFTWARDS_DOUBLE_ARROW-TAIL 0RIGHTWARDS_DOUBLE_ARROW-TAIL
0LEFTWARDS_ARROW_TO_BLACK_DIAMOND 0RIGHTWARDS_ARROW_TO_BLACK_DIAMOND
0LEFTWARDS_ARROW_FROM_BAR_TO_BLACK_DIAMOND 0RIGHTWARDS_ARROW_FROM_BAR_TO_BLACK_DIAMOND
0NORTH_WEST_AND_SOUTH_EAST_ARROW 1EAST_AND_SOUTH_WEST_ARROW 1WEST_ARROW_WITH_HOOK
1EAST_ARROW_WITH_HOOK 0SOUTH_EAST_ARROW_WITH_HOOK 1WEST_ARROW_WITH_HOOK
0NORTH_WEST_ARROW_AND_NORTH_EAST_ARROW 1EAST_ARROW_AND_SOUTH_EAST_ARROW
0SOUTH_EAST_ARROW_AND_SOUTH_WEST_ARROW 1WEST_ARROW_AND_NORTH_WEST_ARROW
0RISING_DIAGONAL_CROSSING_FALLING_DIAGONAL 0FALLING_DIAGONAL_CROSSING_RISING_DIAGONAL
0SOUTH_EAST_ARROW_CROSSING_NORTH_EAST_ARROW 0NORTH_EAST_ARROW_CROSSING_SOUTH_EAST_ARROW
0FALLING_DIAGONAL_CROSSING_NORTH_EAST_ARROW 0RISING_DIAGONAL_CROSSING_SOUTH_EAST_ARROW
0NORTH_EAST_ARROW_CROSSING_NORTH_WEST_ARROW 1WEST_ARROW_CROSSING_NORTH_EAST_ARROW
0WAVE_ARROW_POINTING_DIRECTLY_RIGHT 0ARROW_POINTING_RIGHTWARDS_THEN_CURVING_UPWARDS 5DOWNWARDS
2DOWNWARDS_THEN_CURVING_LEFTWARDS 5RIGHTWARDS 0RIGHT-SIDE_ARC_CLOCKWISE_ARROW
0LEFT-SIDE_ARC_ANTICLOCKWISE_ARROW 0TOP_ARC_ANTICLOCKWISE_ARROW 0BOTTOM_ARC_ANTICLOCKWISE_ARROW
0TOP_ARC_CLOCKWISE_ARROW_WITH_MINUS 2ANTICLOCKWISE_ARROW_WITH_PLUS
0LOWER_RIGHT_SEMICIRCULAR_CLOCKWISE_ARROW 1LEFT_SEMICIRCULAR_ANTICLOCKWISE_ARROW
0ANTICLOCKWISE_CLOSED_CIRCLE_ARROW 0CLOCKWISE_CLOSED_CIRCLE_ARROW
0RIGHTWARDS_ARROW_ABOVE_SHORT_LEFTWARDS_ARROW 0LEFTWARDS_ARROW_ABOVE_SHORT_RIGHTWARDS_ARROW
0SHORT_RIGHTWARDS_ARROW_ABOVE_LEFTWARDS_ARROW 0RIGHTWARDS_ARROW_WITH_PLUS_BELOW
0LEFTWARDS_ARROW_WITH_PLUS_BELOW 0RIGHTWARDS_ARROW_THROUGH_X
0LEFT_RIGHT_ARROW_THROUGH_SMALL_CIRCLE 0UPWARDS_TWO-HEADED_ARROW_FROM_SMALL_CIRCLE
0LEFT_BARB_UP_RIGHT_BARB_DOWN_HARPOON 2DOWN_RIGHT_BARB_UP_HARPOON
0UP_BARB_RIGHT_DOWN_BARB_LEFT_HARPOON 2LEFT_DOWN_BARB_RIGHT_HARPOON
0LEFT_BARB_UP_RIGHT_BARB_UP_HARPOON 0UP_BARB_RIGHT_DOWN_BARB_RIGHT_HARPOON
0LEFT_BARB_DOWN_RIGHT_BARB_DOWN_HARPOON 0UP_BARB_LEFT_DOWN_BARB_LEFT_HARPOON
0LEFTWARDS_HARPOON_WITH_BARB_UP_TO_BAR 0RIGHTWARDS_HARPOON_WITH_BARB_UP_TO_BAR
0UPWARDS_HARPOON_WITH_BARB_RIGHT_TO_BAR 0DOWNWARDS_HARPOON_WITH_BARB_RIGHT_TO_BAR
0LEFTWARDS_HARPOON_WITH_BARB_DOWN_TO_BAR 0RIGHTWARDS_HARPOON_WITH_BARB_DOWN_TO_BAR
0UPWARDS_HARPOON_WITH_BARB_LEFT_TO_BAR 0DOWNWARDS_HARPOON_WITH_BARB_LEFT_TO_BAR
0LEFTWARDS_HARPOON_WITH_BARB_UP_FROM_BAR 0RIGHTWARDS_HARPOON_WITH_BARB_UP_FROM_BAR
0UPWARDS_HARPOON_WITH_BARB_RIGHT_FROM_BAR 0DOWNWARDS_HARPOON_WITH_BARB_RIGHT_FROM_BAR
0LEFTWARDS_HARPOON_WITH_BARB_DOWN_FROM_BAR 0RIGHTWARDS_HARPOON_WITH_BARB_DOWN_FROM_BAR
0UPWARDS_HARPOON_WITH_BARB_LEFT_FROM_BAR 0DOWNWARDS_HARPOON_WITH_BARB_LEFT_FROM_BAR
0LEFTWARDS_HARPOON_WITH_BARB_UP_ABOVE_LEFTWARDS_HARPOON_WITH_BARB_DOWN
0UPWARDS_HARPOON_WITH_BARB_LEFT_BESIDE_UPWARDS_HARPOON_WITH_BARB_RIGHT
0RIGHTWARDS_HARPOON_WITH_BARB_UP_ABOVE_RIGHTWARDS_HARPOON_WITH_BARB_DOWN
0DOWNWARDS_HARPOON_WITH_BARB_LEFT_BESIDE_DOWNWARDS_HARPOON_WITH_BARB_RIGHT
0LEFTWARDS_HARPOON_WITH_BARB_UP_ABOVE_RIGHTWARDS_HARPOON_WITH_BARB_UP
4DOWN_ABOVE_RIGHTWARDS_HARPOON_WITH_BARB_DOWN
0RIGHTWARDS_HARPOON_WITH_BARB_UP_ABOVE_LEFTWARDS_HARPOON_WITH_BARB_UP
4DOWN_ABOVE_LEFTWARDS_HARPOON_WITH_BARB_DOWN 0LEFTWARDS_HARPOON_WITH_BARB_UP_ABOVE_LONG_DASH
4DOWN_BELOW_LONG_DASH 0RIGHTWARDS_HARPOON_WITH_BARB_UP_ABOVE_LONG_DASH 4DOWN_BELOW_LONG_DASH
0UPWARDS_HARPOON_WITH_BARB_LEFT_BESIDE_DOWNWARDS_HARPOON_WITH_BARB_RIGHT
0DOWNWARDS_HARPOON_WITH_BARB_LEFT_BESIDE_UPWARDS_HARPOON_WITH_BARB_RIGHT
0RIGHT_DOUBLE_ARROW_WITH_ROUNDED_HEAD 0EQUALS_SIGN_ABOVE_RIGHTWARDS_ARROW
0TILDE_OPERATOR_ABOVE_RIGHTWARDS_ARROW 0LEFTWARDS_ARROW_ABOVE_TILDE_OPERATOR
0RIGHTWARDS_ARROW_ABOVE_TILDE_OPERATOR 3ALMOST_EQUAL_TO 0LESS-THAN_ABOVE_LEFTWARDS_ARROW
0LEFTWARDS_ARROW_THROUGH_LESS-THAN 0GREATER-THAN_ABOVE_RIGHTWARDS_ARROW
0SUBSET_ABOVE_RIGHTWARDS_ARROW 0LEFTWARDS_ARROW_THROUGH_SUBSET 0SUPERSET_ABOVE_LEFTWARDS_ARROW
0LEFT_FISH_TAIL 0RIGHT_FISH_TAIL 0UP_FISH_TAIL 0DOWN_FISH_TAIL 0TRIPLE_VERTICAL_BAR_DELIMITER
0Z_NOTATION_SPOT 2TYPE_COLON 0LEFT_WHITE_CURLY_BRACKET 0RIGHT_WHITE_CURLY_BRACKET
0LEFT_WHITE_PARENTHESIS 0RIGHT_WHITE_PARENTHESIS 0Z_NOTATION_LEFT_IMAGE_BRACKET
2RIGHT_IMAGE_BRACKET 2LEFT_BINDING_BRACKET 2RIGHT_BINDING_BRACKET
0LEFT_SQUARE_BRACKET_WITH_UNDERBAR 0RIGHT_SQUARE_BRACKET_WITH_UNDERBAR
0LEFT_SQUARE_BRACKET_WITH_TICK_IN_TOP_CORNER 0RIGHT_SQUARE_BRACKET_WITH_TICK_IN_BOTTOM_CORNER
0LEFT_SQUARE_BRACKET_WITH_TICK_IN_BOTTOM_CORNER 0RIGHT_SQUARE_BRACKET_WITH_TICK_IN_TOP_CORNER
0LEFT_ANGLE_BRACKET_WITH_DOT 0RIGHT_ANGLE_BRACKET_WITH_DOT 0LEFT_ARC_LESS-THAN_BRACKET
0RIGHT_ARC_GREATER-THAN_BRACKET 0DOUBLE_LEFT_ARC_GREATER-THAN_BRACKET 1RIGHT_ARC_LESS-THAN_BRACKET
0LEFT_BLACK_TORTOISE_SHELL_BRACKET 0RIGHT_BLACK_TORTOISE_SHELL_BRACKET 0DOTTED_FENCE
0VERTICAL_ZIGZAG_LINE 0MEASURED_ANGLE_OPENING_LEFT 0RIGHT_ANGLE_VARIANT_WITH_SQUARE
0MEASURED_RIGHT_ANGLE_WITH_DOT 0ANGLE_WITH_S_INSIDE 0ACUTE_ANGLE 0SPHERICAL_ANGLE_OPENING_LEFT 3UP
0TURNED_ANGLE 0REVERSED_ANGLE 0ANGLE_WITH_UNDERBAR 0REVERSED_ANGLE_WITH_UNDERBAR
0OBLIQUE_ANGLE_OPENING_UP 3DOWN
0MEASURED_ANGLE_WITH_OPEN_ARM_ENDING_IN_ARROW_POINTING_UP_AND_RIGHT BLEFT 9DOWN_AND_RIGHT BLEFT
9RIGHT_AND_UP 9LEFT_AND_UP 9RIGHT_AND_DOWN 9LEFT_AND_DOWN 0REVERSED_EMPTY_SET
0EMPTY_SET_WITH_OVERBAR 3SMALL_CIRCLE_ABOVE 3RIGHT_ARROW_ABOVE 3LEFT_ARROW_ABOVE
0CIRCLE_WITH_HORIZONTAL_BAR 0CIRCLED_VERTICAL_BAR 1PARALLEL 1REVERSE_SOLIDUS 1PERPENDICULAR
0CIRCLE_DIVIDED_BY_HORIZONTAL_BAR_AND_TOP_HALF_DIVIDED_BY_VERTICAL_BAR 1WITH_SUPERIMPOSED_X
0CIRCLED_ANTICLOCKWISE-ROTATED_DIVISION_SIGN 0UP_ARROW_THROUGH_CIRCLE 0CIRCLED_WHITE_BULLET
1BULLET 1LESS-THAN 1GREATER-THAN 0CIRCLE_WITH_SMALL_CIRCLE_TO_THE_RIGHT
2TWO_HORIZONTAL_STROKES_TO_THE_RIGHT 0SQUARED_RISING_DIAGONAL_SLASH 1FALLING_DIAGONAL_SLASH
1ASTERISK 1SMALL_CIRCLE 1SQUARE 0TWO_JOINED_SQUARES 0TRIANGLE_WITH_DOT_ABOVE 2UNDERBAR
0S_IN_TRIANGLE 0TRIANGLE_WITH_SERIFS_AT_BOTTOM 0RIGHT_TRIANGLE_ABOVE_LEFT_TRIANGLE
0LEFT_TRIANGLE_BESIDE_VERTICAL_BAR 0VERTICAL_BAR_BESIDE_RIGHT_TRIANGLE
0BOWTIE_WITH_LEFT_HALF_BLACK 2RIGHT_HALF_BLACK 0BLACK_BOWTIE 0TIMES_WITH_LEFT_HALF_BLACK
2RIGHT_HALF_BLACK 0WHITE_HOURGLASS 0BLACK_HOURGLASS 0LEFT_WIGGLY_FENCE 0RIGHT_WIGGLY_FENCE
0LEFT_DOUBLE_WIGGLY_FENCE 0RIGHT_DOUBLE_WIGGLY_FENCE 0INCOMPLETE_INFINITY 0TIE_OVER_INFINITY
0INFINITY_NEGATED_WITH_VERTICAL_BAR 0DOUBLE-ENDED_MULTIMAP 0SQUARE_WITH_CONTOURED_OUTLINE
0INCREASES_AS 0SHUFFLE_PRODUCT 0EQUALS_SIGN_AND_SLANTED_PARALLEL 5WITH_TILDE_ABOVE
0IDENTICAL_TO_AND_SLANTED_PARALLEL 0GLEICH_STARK 0THERMODYNAMIC
0DOWN-POINTING_TRIANGLE_WITH_LEFT_HALF_BLACK 3RIGHT_HALF_BLACK 0BLACK_DIAMOND_WITH_DOWN_ARROW
1LOZENGE 0WHITE_CIRCLE_WITH_DOWN_ARROW 0BLACK_CIRCLE_WITH_DOWN_ARROW 0ERROR-BARRED_WHITE_SQUARE
1BLACK_SQUARE 1WHITE_DIAMOND 1BLACK_DIAMOND 1WHITE_CIRCLE 1BLACK_CIRCLE 0RULE-DELAYED
0REVERSE_SOLIDUS_OPERATOR 0SOLIDUS_WITH_OVERBAR 0REVERSE_SOLIDUS_WITH_HORIZONTAL_STROKE
0BIG_SOLIDUS 1REVERSE_SOLIDUS 0DOUBLE_PLUS 0TRIPLE_PLUS 0LEFT-POINTING_CURVED_ANGLE_BRACKET
0RIGHT-POINTING_CURVED_ANGLE_BRACKET 0TINY 0MINY 0N-ARY_CIRCLED_DOT_OPERATOR 2PLUS_OPERATOR
2TIMES_OPERATOR 1UNION_OPERATOR_WITH_DOT 4PLUS 1SQUARE_INTERSECTION_OPERATOR 2UNION_OPERATOR
0TWO_LOGICAL_AND_OPERATOR 2OR_OPERATOR 0N-ARY_TIMES_OPERATOR 0MODULO_TWO_SUM
0SUMMATION_WITH_INTEGRAL 0QUADRUPLE_INTEGRAL_OPERATOR 0FINITE_PART_INTEGRAL
0INTEGRAL_WITH_DOUBLE_STROKE 1AVERAGE_WITH_SLASH 0CIRCULATION_FUNCTION 0ANTICLOCKWISE_INTEGRATION
0LINE_INTEGRATION_WITH_RECTANGULAR_PATH_AROUND_POLE 3SEMICIRCULAR_PATH_AROUND_POLE
2NOT_INCLUDING_THE_POLE 0INTEGRAL_AROUND_A_POINT_OPERATOR 0QUATERNION_INTEGRAL_OPERATOR
0INTEGRAL_WITH_LEFTWARDS_ARROW_WITH_HOOK 2TIMES_SIGN 2INTERSECTION 2UNION 2OVERBAR 2UNDERBAR 0JOIN
0LARGE_LEFT_TRIANGLE_OPERATOR 0Z_NOTATION_SCHEMA_COMPOSITION 3PIPING 3PROJECTION
0PLUS_SIGN_WITH_SMALL_CIRCLE_ABOVE 3CIRCUMFLEX_ACCENT_ABOVE 3TILDE_ABOVE 3DOT_BELOW 3TILDE_BELOW
3SUBSCRIPT_TWO 3BLACK_TRIANGLE 0MINUS_SIGN_WITH_COMMA_ABOVE 3DOT_BELOW 3FALLING_DOTS 3RISING_DOTS
0PLUS_SIGN_IN_LEFT_HALF_CIRCLE 3RIGHT_HALF_CIRCLE 0VECTOR_OR_CROSS_PRODUCT
0MULTIPLICATION_SIGN_WITH_DOT_ABOVE 3UNDERBAR 0SEMIDIRECT_PRODUCT_WITH_BOTTOM_CLOSED
0SMASH_PRODUCT 0MULTIPLICATION_SIGN_IN_LEFT_HALF_CIRCLE 3RIGHT_HALF_CIRCLE
0CIRCLED_MULTIPLICATION_SIGN_WITH_CIRCUMFLEX_ACCENT 0MULTIPLICATION_SIGN_IN_DOUBLE_CIRCLE
0CIRCLED_DIVISION_SIGN 0PLUS_SIGN_IN_TRIANGLE 0MINUS_SIGN_IN_TRIANGLE
0MULTIPLICATION_SIGN_IN_TRIANGLE 0INTERIOR_PRODUCT 0RIGHTHAND_INTERIOR_PRODUCT
0Z_NOTATION_RELATIONAL_COMPOSITION 0AMALGAMATION_OR_COPRODUCT 0INTERSECTION_WITH_DOT
0UNION_WITH_MINUS_SIGN 2OVERBAR 0INTERSECTION_WITH_OVERBAR 2LOGICAL_AND 0UNION_WITH_LOGICAL_OR
1ABOVE_INTERSECTION 0INTERSECTION_ABOVE_UNION 0UNION_ABOVE_BAR_ABOVE_INTERSECTION
0INTERSECTION_ABOVE_BAR_ABOVE_UNION 0UNION_BESIDE_AND_JOINED_WITH_UNION
0INTERSECTION_BESIDE_AND_JOINED_WITH_INTERSECTION 0CLOSED_UNION_WITH_SERIFS
1INTERSECTION_WITH_SERIFS 0DOUBLE_SQUARE_INTERSECTION 2UNION
0CLOSED_UNION_WITH_SERIFS_AND_SMASH_PRODUCT 0LOGICAL_AND_WITH_DOT_ABOVE 1OR_WITH_DOT_ABOVE
0DOUBLE_LOGICAL_AND 2OR 0TWO_INTERSECTING_LOGICAL_AND 3OR 0SLOPING_LARGE_OR 2AND
0LOGICAL_OR_OVERLAPPING_LOGICAL_AND 1AND_WITH_MIDDLE_STEM 1OR_WITH_MIDDLE_STEM
1AND_WITH_HORIZONTAL_DASH 1OR_WITH_HORIZONTAL_DASH 1AND_WITH_DOUBLE_OVERBAR 3UNDERBAR
3DOUBLE_UNDERBAR 0SMALL_VEE_WITH_UNDERBAR 0LOGICAL_OR_WITH_DOUBLE_OVERBAR 4UNDERBAR
0Z_NOTATION_DOMAIN_ANTIRESTRICTION 2RANGE_ANTIRESTRICTION 0EQUALS_SIGN_WITH_DOT_BELOW
0IDENTICAL_WITH_DOT_ABOVE 0TRIPLE_HORIZONTAL_BAR_WITH_DOUBLE_VERTICAL_STROKE
4TRIPLE_VERTICAL_STROKE 0TILDE_OPERATOR_WITH_DOT_ABOVE 3RISING_DOTS 0SIMILAR_MINUS_SIMILAR
0CONGRUENT_WITH_DOT_ABOVE 0EQUALS_WITH_ASTERISK 0ALMOST_EQUAL_TO_WITH_CIRCUMFLEX_ACCENT
0APPROXIMATELY_EQUAL_OR_EQUAL_TO 0EQUALS_SIGN_ABOVE_PLUS_SIGN 0PLUS_SIGN_ABOVE_EQUALS_SIGN
0EQUALS_SIGN_ABOVE_TILDE_OPERATOR 0DOUBLE_COLON_EQUAL 0TWO_CONSECUTIVE_EQUALS_SIGNS
0THREE_CONSECUTIVE_EQUALS_SIGNS 0EQUALS_SIGN_WITH_TWO_DOTS_ABOVE_AND_TWO_DOTS_BELOW
0EQUIVALENT_WITH_FOUR_DOTS_ABOVE 0LESS-THAN_WITH_CIRCLE_INSIDE 0GREATER-THAN_WITH_CIRCLE_INSIDE
0LESS-THAN_WITH_QUESTION_MARK_ABOVE 0GREATER-THAN_WITH_QUESTION_MARK_ABOVE
0LESS-THAN_OR_SLANTED_EQUAL_TO 0GREATER-THAN_OR_SLANTED_EQUAL_TO
0LESS-THAN_OR_SLANTED_EQUAL_TO_WITH_DOT_INSIDE 0GREATER-THAN_OR_SLANTED_EQUAL_TO_WITH_DOT_INSIDE
0LESS-THAN_OR_SLANTED_EQUAL_TO_WITH_DOT_ABOVE 0GREATER-THAN_OR_SLANTED_EQUAL_TO_WITH_DOT_ABOVE
0LESS-THAN_OR_SLANTED_EQUAL_TO_WITH_DOT_ABOVE_RIGHT
0GREATER-THAN_OR_SLANTED_EQUAL_TO_WITH_DOT_ABOVE_LEFT 0LESS-THAN_OR_APPROXIMATE
0GREATER-THAN_OR_APPROXIMATE 0LESS-THAN_AND_SINGLE-LINE_NOT_EQUAL_TO
0GREATER-THAN_AND_SINGLE-LINE_NOT_EQUAL_TO 0LESS-THAN_AND_NOT_APPROXIMATE
0GREATER-THAN_AND_NOT_APPROXIMATE 0LESS-THAN_ABOVE_DOUBLE-LINE_EQUAL_ABOVE_GREATER-THAN
0GREATER-THAN_ABOVE_DOUBLE-LINE_EQUAL_ABOVE_LESS-THAN 0LESS-THAN_ABOVE_SIMILAR_OR_EQUAL
0GREATER-THAN_ABOVE_SIMILAR_OR_EQUAL 0LESS-THAN_ABOVE_SIMILAR_ABOVE_GREATER-THAN
0GREATER-THAN_ABOVE_SIMILAR_ABOVE_LESS-THAN 0LESS-THAN_ABOVE_GREATER-THAN_ABOVE_DOUBLE-LINE_EQUAL
0GREATER-THAN_ABOVE_LESS-THAN_ABOVE_DOUBLE-LINE_EQUAL
0LESS-THAN_ABOVE_SLANTED_EQUAL_ABOVE_GREATER-THAN_ABOVE_SLANTED_EQUAL
0GREATER-THAN_ABOVE_SLANTED_EQUAL_ABOVE_LESS-THAN_ABOVE_SLANTED_EQUAL
0SLANTED_EQUAL_TO_OR_LESS-THAN 4GREATER-THAN 4LESS-THAN_WITH_DOT_INSIDE
4GREATER-THAN_WITH_DOT_INSIDE 0DOUBLE-LINE_EQUAL_TO_OR_LESS-THAN 4GREATER-THAN
1SLANTED_EQUAL_TO_OR_LESS-THAN 5GREATER-THAN 0SIMILAR_OR_LESS-THAN 2GREATER-THAN
1ABOVE_LESS-THAN_ABOVE_EQUALS_SIGN 2GREATER-THAN_ABOVE_EQUALS_SIGN 0DOUBLE_NESTED_LESS-THAN
2GREATER-THAN 2LESS-THAN_WITH_UNDERBAR 0GREATER-THAN_OVERLAPPING_LESS-THAN 1BESIDE_LESS-THAN
0LESS-THAN_CLOSED_BY_CURVE 0GREATER-THAN_CLOSED_BY_CURVE
0LESS-THAN_CLOSED_BY_CURVE_ABOVE_SLANTED_EQUAL 0GREATER-THAN_CLOSED_BY_CURVE_ABOVE_SLANTED_EQUAL
0SMALLER_THAN 0LARGER_THAN 0SMALLER_THAN_OR_EQUAL_TO 0LARGER_THAN_OR_EQUAL_TO
0EQUALS_SIGN_WITH_BUMPY_ABOVE 0PRECEDES_ABOVE_SINGLE-LINE_EQUALS_SIGN
0SUCCEEDS_ABOVE_SINGLE-LINE_EQUALS_SIGN 0PRECEDES_ABOVE_SINGLE-LINE_NOT_EQUAL_TO
0SUCCEEDS_ABOVE_SINGLE-LINE_NOT_EQUAL_TO 0PRECEDES_ABOVE_EQUALS_SIGN 0SUCCEEDS_ABOVE_EQUALS_SIGN
0PRECEDES_ABOVE_NOT_EQUAL_TO 0SUCCEEDS_ABOVE_NOT_EQUAL_TO 0PRECEDES_ABOVE_ALMOST_EQUAL_TO
0SUCCEEDS_ABOVE_ALMOST_EQUAL_TO 0PRECEDES_ABOVE_NOT_ALMOST_EQUAL_TO
0SUCCEEDS_ABOVE_NOT_ALMOST_EQUAL_TO 0DOUBLE_PRECEDES 1SUCCEEDS 0SUBSET_WITH_DOT 0SUPERSET_WITH_DOT
0SUBSET_WITH_PLUS_SIGN_BELOW 0SUPERSET_WITH_PLUS_SIGN_BELOW 0SUBSET_WITH_MULTIPLICATION_SIGN_BELOW
0SUPERSET_WITH_MULTIPLICATION_SIGN_BELOW 0SUBSET_OF_OR_EQUAL_TO_WITH_DOT_ABOVE
0SUPERSET_OF_OR_EQUAL_TO_WITH_DOT_ABOVE 0SUBSET_OF_ABOVE_EQUALS_SIGN
0SUPERSET_OF_ABOVE_EQUALS_SIGN 0SUBSET_OF_ABOVE_TILDE_OPERATOR 0SUPERSET_OF_ABOVE_TILDE_OPERATOR
0SUBSET_OF_ABOVE_ALMOST_EQUAL_TO 0SUPERSET_OF_ABOVE_ALMOST_EQUAL_TO 0SUBSET_OF_ABOVE_NOT_EQUAL_TO
0SUPERSET_OF_ABOVE_NOT_EQUAL_TO 0SQUARE_LEFT_OPEN_BOX_OPERATOR 1RIGHT_OPEN_BOX_OPERATOR
0CLOSED_SUBSET 1SUPERSET 1SUBSET_OR_EQUAL_TO 1SUPERSET_OR_EQUAL_TO 0SUBSET_ABOVE_SUPERSET
0SUPERSET_ABOVE_SUBSET 0SUBSET_ABOVE_SUBSET 0SUPERSET_ABOVE_SUPERSET 1BESIDE_SUBSET
2AND_JOINED_BY_DASH_WITH_SUBSET 0ELEMENT_OF_OPENING_DOWNWARDS 0PITCHFORK_WITH_TEE_TOP
0TRANSVERSAL_INTERSECTION 0FORKING 0NONFORKING 0SHORT_LEFT_TACK 1DOWN_TACK 1UP_TACK
0PERPENDICULAR_WITH_S 0VERTICAL_BAR_TRIPLE_RIGHT_TURNSTILE 0DOUBLE_VERTICAL_BAR_LEFT_TURNSTILE
0VERTICAL_BAR_DOUBLE_LEFT_TURNSTILE 0DOUBLE_VERTICAL_BAR_DOUBLE_LEFT_TURNSTILE
0LONG_DASH_FROM_LEFT_MEMBER_OF_DOUBLE_VERTICAL 0SHORT_DOWN_TACK_WITH_OVERBAR
1UP_TACK_WITH_UNDERBAR 3ABOVE_SHORT_DOWN_TACK 0DOUBLE_DOWN_TACK 1UP_TACK 1STROKE_NOT_SIGN
0REVERSED_DOUBLE_STROKE_NOT_SIGN 0DOES_NOT_DIVIDE_WITH_REVERSED_NEGATION_SLASH
0VERTICAL_LINE_WITH_CIRCLE_ABOVE 4BELOW 0DOWN_TACK_WITH_CIRCLE_BELOW
0PARALLEL_WITH_HORIZONTAL_STROKE 2TILDE_OPERATOR 0TRIPLE_VERTICAL_BAR_BINARY_RELATION
3WITH_HORIZONTAL_STROKE 1COLON_OPERATOR 1NESTED_LESS-THAN 2GREATER-THAN
0DOUBLE-LINE_SLANTED_LESS-THAN_OR_EQUAL_TO 2GREATER-THAN_OR_EQUAL_TO
0TRIPLE_SOLIDUS_BINARY_RELATION 0LARGE_TRIPLE_VERTICAL_BAR_OPERATOR 0DOUBLE_SOLIDUS_OPERATOR
0WHITE_VERTICAL_BAR 0N-ARY_WHITE_VERTICAL_BAR 0NORTH_EAST_WHITE_ARROW 1WEST_WHITE_ARROW
0SOUTH_EAST_WHITE_ARROW 1WEST_WHITE_ARROW 0LEFT_RIGHT_WHITE_ARROW 0LEFTWARDS_BLACK_ARROW
0UPWARDS_BLACK_ARROW 0DOWNWARDS_BLACK_ARROW 0NORTH_EAST_BLACK_ARROW 1WEST_BLACK_ARROW
0SOUTH_EAST_BLACK_ARROW 1WEST_BLACK_ARROW 0LEFT_RIGHT_BLACK_ARROW 0UP_DOWN_BLACK_ARROW
0RIGHTWARDS_ARROW_WITH_TIP_DOWNWARDS 4UPWARDS 0LEFTWARDS_ARROW_WITH_TIP_DOWNWARDS 4UPWARDS
0SQUARE_WITH_TOP_HALF_BLACK 2BOTTOM_HALF_BLACK 2UPPER_RIGHT_DIAGONAL_HALF_BLACK
2LOWER_LEFT_DIAGONAL_HALF_BLACK 0DIAMOND_WITH_LEFT_HALF_BLACK 2RIGHT_HALF_BLACK 2TOP_HALF_BLACK
2BOTTOM_HALF_BLACK 0DOTTED_SQUARE 0BLACK_LARGE_SQUARE 0WHITE_LARGE_SQUARE 0BLACK_VERY_SMALL_SQUARE
0WHITE_VERY_SMALL_SQUARE 0BLACK_PENTAGON 0WHITE_PENTAGON 1HEXAGON 0BLACK_HEXAGON
0HORIZONTAL_BLACK_HEXAGON 0BLACK_LARGE_CIRCLE 1MEDIUM_DIAMOND 0WHITE_MEDIUM_DIAMOND
0BLACK_MEDIUM_LOZENGE 0WHITE_MEDIUM_LOZENGE 0BLACK_SMALL_DIAMOND 2LOZENGE 0WHITE_SMALL_LOZENGE
0BLACK_HORIZONTAL_ELLIPSE 0WHITE_HORIZONTAL_ELLIPSE 0BLACK_VERTICAL_ELLIPSE
0WHITE_VERTICAL_ELLIPSE 0LEFT_ARROW_WITH_SMALL_CIRCLE 0THREE_LEFTWARDS_ARROWS
0LEFT_ARROW_WITH_CIRCLED_PLUS 0LONG_LEFTWARDS_SQUIGGLE_ARROW
0LEFTWARDS_TWO-HEADED_ARROW_WITH_VERTICAL_STROKE 4DOUBLE_VERTICAL_STROKE 3FROM_BAR
2TRIPLE_DASH_ARROW 1ARROW_WITH_DOTTED_STEM 3TAIL_WITH_VERTICAL_STROKE 5DOUBLE_VERTICAL_STROKE
1TWO-HEADED_ARROW_WITH_TAIL 5WITH_VERTICAL_STROKE 6DOUBLE_VERTICAL_STROKE 1ARROW_THROUGH_X
0WAVE_ARROW_POINTING_DIRECTLY_LEFT 0EQUALS_SIGN_ABOVE_LEFTWARDS_ARROW
0REVERSE_TILDE_OPERATOR_ABOVE_LEFTWARDS_ARROW 0LEFTWARDS_ARROW_ABOVE_REVERSE_ALMOST_EQUAL_TO
0RIGHTWARDS_ARROW_THROUGH_GREATER-THAN 3SUPERSET 0LEFTWARDS_QUADRUPLE_ARROW
0RIGHTWARDS_QUADRUPLE_ARROW 0REVERSE_TILDE_OPERATOR_ABOVE_RIGHTWARDS_ARROW
0RIGHTWARDS_ARROW_ABOVE_REVERSE_ALMOST_EQUAL_TO 0TILDE_OPERATOR_ABOVE_LEFTWARDS_ARROW
0LEFTWARDS_ARROW_ABOVE_ALMOST_EQUAL_TO 3REVERSE_TILDE_OPERATOR
0RIGHTWARDS_ARROW_ABOVE_REVERSE_TILDE_OPERATOR 0DOWNWARDS_TRIANGLE-HEADED_ZIGZAG_ARROW
0SHORT_SLANTED_NORTH_ARROW 1BACKSLANTED_SOUTH_ARROW 0WHITE_MEDIUM_STAR 0BLACK_SMALL_STAR
0WHITE_SMALL_STAR 0BLACK_RIGHT-POINTING_PENTAGON 0WHITE_RIGHT-POINTING_PENTAGON
0HEAVY_LARGE_CIRCLE 1OVAL_WITH_OVAL_INSIDE 1CIRCLE_WITH_CIRCLE_INSIDE 1CIRCLE 1CIRCLED_SALTIRE
0SLANTED_NORTH_ARROW_WITH_HOOKED_HEAD 0BACKSLANTED_SOUTH_ARROW_WITH_HOOKED_TAIL
0SLANTED_NORTH_ARROW_WITH_HORIZONTAL_TAIL 0BACKSLANTED_SOUTH_ARROW_WITH_HORIZONTAL_TAIL
0BENT_ARROW_POINTING_DOWNWARDS_THEN_NORTH_EAST
0SHORT_BENT_ARROW_POINTING_DOWNWARDS_THEN_NORTH_EAST 0LEFTWARDS_TRIANGLE-HEADED_ARROW
0UPWARDS_TRIANGLE-HEADED_ARROW 0RIGHTWARDS_TRIANGLE-HEADED_ARROW 0DOWNWARDS_TRIANGLE-HEADED_ARROW
0LEFT_RIGHT_TRIANGLE-HEADED_ARROW 0UP_DOWN_TRIANGLE-HEADED_ARROW 0NORTH_WEST_TRIANGLE-HEADED_ARROW
1EAST_TRIANGLE-HEADED_ARROW 0SOUTH_EAST_TRIANGLE-HEADED_ARROW 1WEST_TRIANGLE-HEADED_ARROW
0LEFTWARDS_TRIANGLE-HEADED_DASHED_ARROW 0UPWARDS_TRIANGLE-HEADED_DASHED_ARROW
0RIGHTWARDS_TRIANGLE-HEADED_DASHED_ARROW 0DOWNWARDS_TRIANGLE-HEADED_DASHED_ARROW
0CLOCKWISE_TRIANGLE-HEADED_OPEN_CIRCLE_ARROW 0ANTICLOCKWISE_TRIANGLE-HEADED_OPEN_CIRCLE_ARROW
0LEFTWARDS_TRIANGLE-HEADED_ARROW_TO_BAR 0UPWARDS_TRIANGLE-HEADED_ARROW_TO_BAR
0RIGHTWARDS_TRIANGLE-HEADED_ARROW_TO_BAR 0DOWNWARDS_TRIANGLE-HEADED_ARROW_TO_BAR @2B76
0NORTH_WEST_TRIANGLE-HEADED_ARROW_TO_BAR 1EAST_TRIANGLE-HEADED_ARROW_TO_BAR
0SOUTH_EAST_TRIANGLE-HEADED_ARROW_TO_BAR 1WEST_TRIANGLE-HEADED_ARROW_TO_BAR
0LEFTWARDS_TRIANGLE-HEADED_ARROW_WITH_DOUBLE_HORIZONTAL_STROKE
0UPWARDS_TRIANGLE-HEADED_ARROW_WITH_DOUBLE_HORIZONTAL_STROKE
0RIGHTWARDS_TRIANGLE-HEADED_ARROW_WITH_DOUBLE_HORIZONTAL_STROKE
0DOWNWARDS_TRIANGLE-HEADED_ARROW_WITH_DOUBLE_HORIZONTAL_STROKE 0HORIZONTAL_TAB_KEY
0VERTICAL_TAB_KEY 0LEFTWARDS_TRIANGLE-HEADED_ARROW_OVER_RIGHTWARDS_TRIANGLE-HEADED_ARROW
0UPWARDS_TRIANGLE-HEADED_ARROW_LEFTWARDS_OF_DOWNWARDS_TRIANGLE-HEADED_ARROW
0RIGHTWARDS_TRIANGLE-HEADED_ARROW_OVER_LEFTWARDS_TRIANGLE-HEADED_ARROW
0DOWNWARDS_TRIANGLE-HEADED_ARROW_LEFTWARDS_OF_UPWARDS_TRIANGLE-HEADED_ARROW
0LEFTWARDS_TRIANGLE-HEADED_PAIRED_ARROWS 0UPWARDS_TRIANGLE-HEADED_PAIRED_ARROWS
0RIGHTWARDS_TRIANGLE-HEADED_PAIRED_ARROWS 0DOWNWARDS_TRIANGLE-HEADED_PAIRED_ARROWS
0LEFTWARDS_BLACK_CIRCLED_WHITE_ARROW 0UPWARDS_BLACK_CIRCLED_WHITE_ARROW
0RIGHTWARDS_BLACK_CIRCLED_WHITE_ARROW 0DOWNWARDS_BLACK_CIRCLED_WHITE_ARROW
0ANTICLOCKWISE_TRIANGLE-HEADED_RIGHT_U-SHAPED_ARROW 2BOTTOM_U-SHAPED_ARROW 2LEFT_U-SHAPED_ARROW
2TOP_U-SHAPED_ARROW 0RETURN_LEFT 1RIGHT 0NEWLINE_LEFT 1RIGHT
0FOUR_CORNER_ARROWS_CIRCLING_ANTICLOCKWISE 0RIGHTWARDS_BLACK_ARROW @2B97
0SYMBOL_FOR_TYPE_A_ELECTRONICS 0THREE-D_TOP-LIGHTED_LEFTWARDS_EQUILATERAL_ARROWHEAD
1RIGHT-LIGHTED_UPWARDS_EQUILATERAL_ARROWHEAD 1TOP-LIGHTED_RIGHTWARDS_EQUILATERAL_ARROWHEAD
1LEFT-LIGHTED_DOWNWARDS_EQUILATERAL_ARROWHEAD 0BLACK_LEFTWARDS_EQUILATERAL_ARROWHEAD
1UPWARDS_EQUILATERAL_ARROWHEAD 1RIGHTWARDS_EQUILATERAL_ARROWHEAD 1DOWNWARDS_EQUILATERAL_ARROWHEAD
0DOWNWARDS_TRIANGLE-HEADED_ARROW_WITH_LONG_TIP_LEFTWARDS 6RIGHTWARDS
0UPWARDS_TRIANGLE-HEADED_ARROW_WITH_LONG_TIP_LEFTWARDS 6RIGHTWARDS
0LEFTWARDS_TRIANGLE-HEADED_ARROW_WITH_LONG_TIP_UPWARDS
0RIGHTWARDS_TRIANGLE-HEADED_ARROW_WITH_LONG_TIP_UPWARDS
0LEFTWARDS_TRIANGLE-HEADED_ARROW_WITH_LONG_TIP_DOWNWARDS
0RIGHTWARDS_TRIANGLE-HEADED_ARROW_WITH_LONG_TIP_DOWNWARDS
0BLACK_CURVED_DOWNWARDS_AND_LEFTWARDS_ARROW 4RIGHTWARDS_ARROW 2UPWARDS_AND_LEFTWARDS_ARROW
4RIGHTWARDS_ARROW 2LEFTWARDS_AND_UPWARDS_ARROW 2RIGHTWARDS_AND_UPWARDS_ARROW
2LEFTWARDS_AND_DOWNWARDS_ARROW 2RIGHTWARDS_AND_DOWNWARDS_ARROW 0RIBBON_ARROW_DOWN_LEFT 3RIGHT
2UP_LEFT 3RIGHT 2LEFT_UP 2RIGHT_UP 2LEFT_DOWN 2RIGHT_DOWN
0UPWARDS_WHITE_ARROW_FROM_BAR_WITH_HORIZONTAL_BAR 0UP_ARROWHEAD_IN_A_RECTANGLE_BOX
0OVERLAPPING_WHITE_SQUARES 2AND_BLACK_SQUARES 1BLACK_SQUARES 0BALLOT_BOX_WITH_LIGHT_X 0CIRCLED_X
1BOLD_X 0BLACK_SQUARE_CENTRED 1DIAMOND_CENTRED 0TURNED_BLACK_PENTAGON 0HORIZONTAL_BLACK_OCTAGON
0BLACK_OCTAGON 1MEDIUM_UP-POINTING_TRIANGLE_CENTRED 2DOWN-POINTING_TRIANGLE_CENTRED
2LEFT-POINTING_TRIANGLE_CENTRED 2RIGHT-POINTING_TRIANGLE_CENTRED 0NEPTUNE_FORM_TWO
0TOP_HALF_BLACK_CIRCLE 0BOTTOM_HALF_BLACK_CIRCLE 0LIGHT_FOUR_POINTED_BLACK_CUSP
0ROTATED_LIGHT_FOUR_POINTED_BLACK_CUSP 0WHITE_FOUR_POINTED_CUSP 0ROTATED_WHITE_FOUR_POINTED_CUSP
0SQUARE_POSITION_INDICATOR 0UNCERTAINTY_SIGN 0GROUP_MARK 0PLUTO_FORM_TWO 2THREE 2FOUR 2FIVE
0TRANSPLUTO 0PROSERPINA 0ASTRAEA 0HYGIEA 0PHOLUS 0NESSUS 0WHITE_MOON_SELENA
0BLACK_DIAMOND_ON_CROSS 0TRUE_LIGHT_MOON_ARTA 0CUPIDO 0HADES 0ZEUS 0KRONOS 0APOLLON 0ADMETOS
0VULCANUS 0POSEIDON 0LEFT_HALF_BLACK_STAR 0RIGHT_HALF_BLACK_STAR 0STAR_WITH_LEFT_HALF_BLACK
2RIGHT_HALF_BLACK 0LEFTWARDS_TWO-HEADED_ARROW_WITH_TRIANGLE_ARROWHEADS
0UPWARDS_TWO-HEADED_ARROW_WITH_TRIANGLE_ARROWHEADS
0RIGHTWARDS_TWO-HEADED_ARROW_WITH_TRIANGLE_ARROWHEADS
0DOWNWARDS_TWO-HEADED_ARROW_WITH_TRIANGLE_ARROWHEADS 0ERIS_FORM_ONE 2TWO 0SEDNA
0RUSSIAN_ASTROLOGICAL_SYMBOL_VIGINTILE 3NOVILE 3QUINTILE 3BINOVILE 3SENTAGON 3TREDECILE
0EQUALS_SIGN_WITH_INFINITY_BELOW 0UNITED_SYMBOL 0SEPARATED_SYMBOL 0DOUBLED_SYMBOL 0PASSED_SYMBOL
0REVERSED_RIGHT_ANGLE 0HELLSCHREIBER_PAUSE_SYMBOL 0GLAGOLITIC_CAPITAL_LETTER_AZU 3BUKY 3VEDE
3GLAGOLI 3DOBRO 3YESTU 3ZHIVETE 3DZELO 3ZEMLJA 3IZHE 3INITIAL_IZHE 3I 3DJERVI 3KAKO 3LJUDIJE
3MYSLITE 3NASHI 3ONU 3POKOJI 3RITSI 3SLOVO 3TVRIDO 3UKU 3FRITU 3HERU 3OTU 3PE 3SHTA 3TSI 3CHRIVI
3SHA 3YERU 3YERI 3YATI 3SPIDERY_HA 3YU 3SMALL_YUS 5WITH_TAIL 3YO 3IOTATED_SMALL_YUS 3BIG_YUS
3IOTATED_BIG_YUS 3FITA 3IZHITSA 3SHTAPIC 3TROKUTASTI_A 3LATINATE_MYSLITE 3CAUDATE_CHRIVI
1SMALL_LETTER_AZU 3BUKY 3VEDE 3GLAGOLI 3DOBRO 3YESTU 3ZHIVETE 3DZELO 3ZEMLJA 3IZHE 3INITIAL_IZHE
3I 3DJERVI 3KAKO 3LJUDIJE 3MYSLITE 3NASHI 3ONU 3POKOJI 3RITSI 3SLOVO 3TVRIDO 3UKU 3FRITU 3HERU
3OTU 3PE 3SHTA 3TSI 3CHRIVI 3SHA 3YERU 3YERI 3YATI 3SPIDERY_HA 3YU 3SMALL_YUS 5WITH_TAIL 3YO
3IOTATED_SMALL_YUS 3BIG_YUS 3IOTATED_BIG_YUS 3FITA 3IZHITSA 3SHTAPIC 3TROKUTASTI_A
3LATINATE_MYSLITE 3CAUDATE_CHRIVI 0LATIN_CAPITAL_LETTER_L_WITH_DOUBLE_BAR ~
1CAPITAL_LETTER_L_WITH_MIDDLE_TILDE 3P_WITH_STROKE 3R_WITH_TAIL 1SMALL_LETTER_A_WITH_STROKE
3T_WITH_DIAGONAL_STROKE 1CAPITAL_LETTER_H_WITH_DESCENDER ~ 1CAPITAL_LETTER_K_WITH_DESCENDER ~
1CAPITAL_LETTER_Z_WITH_DESCENDER ~ 1CAPITAL_LETTER_ALPHA 3M_WITH_HOOK 3TURNED_A 4ALPHA
1SMALL_LETTER_V_WITH_RIGHT_HOOK 1CAPITAL_LETTER_W_WITH_HOOK ~ 3V_WITH_CURL 1CAPITAL_LETTER_HALF_H
~ 3TAILLESS_PHI 3E_WITH_NOTCH 3TURNED_R_WITH_TAIL 3O_WITH_LOW_RING_INSIDE
1LETTER_SMALL_CAPITAL_TURNED_E 1SUBSCRIPT_SMALL_LETTER_J 0MODIFIER_LETTER_CAPITAL_V
0LATIN_CAPITAL_LETTER_S_WITH_SWASH_TAIL 3Z_WITH_SWASH_TAIL 0COPTIC_CAPITAL_LETTER_ALFA ~
1CAPITAL_LETTER_VIDA ~ 1CAPITAL_LETTER_GAMMA ~ 1CAPITAL_LETTER_DALDA ~ 1CAPITAL_LETTER_EIE ~
1CAPITAL_LETTER_SOU ~ 1CAPITAL_LETTER_ZATA ~ 1CAPITAL_LETTER_HATE ~ 1CAPITAL_LETTER_THETHE ~
1CAPITAL_LETTER_IAUDA ~ 1CAPITAL_LETTER_KAPA ~ 1CAPITAL_LETTER_LAULA ~ 1CAPITAL_LETTER_MI ~
1CAPITAL_LETTER_NI ~ 1CAPITAL_LETTER_KSI ~ 1CAPITAL_LETTER_O ~ 1CAPITAL_LETTER_PI ~
1CAPITAL_LETTER_RO ~ 1CAPITAL_LETTER_SIMA ~ 1CAPITAL_LETTER_TAU ~ 1CAPITAL_LETTER_UA ~
1CAPITAL_LETTER_FI ~ 1CAPITAL_LETTER_KHI ~ 1CAPITAL_LETTER_PSI ~ 1CAPITAL_LETTER_OOU ~
1CAPITAL_LETTER_DIALECT-P_ALEF ~ 1CAPITAL_LETTER_OLD_COPTIC_AIN ~
1CAPITAL_LETTER_CRYPTOGRAMMIC_EIE ~ 1CAPITAL_LETTER_DIALECT-P_KAPA ~ 1CAPITAL_LETTER_DIALECT-P_NI
~ 1CAPITAL_LETTER_CRYPTOGRAMMIC_NI ~ 1CAPITAL_LETTER_OLD_COPTIC_OOU ~ 1CAPITAL_LETTER_SAMPI ~
1CAPITAL_LETTER_CROSSED_SHEI ~ 1CAPITAL_LETTER_OLD_COPTIC_SHEI ~ 1CAPITAL_LETTER_OLD_COPTIC_ESH ~
1CAPITAL_LETTER_AKHMIMIC_KHEI ~ 1CAPITAL_LETTER_DIALECT-P_HORI ~ 1CAPITAL_LETTER_OLD_COPTIC_HORI ~
1CAPITAL_LETTER_OLD_COPTIC_HA ~ 1CAPITAL_LETTER_L-SHAPED_HA ~ 1CAPITAL_LETTER_OLD_COPTIC_HEI ~
1CAPITAL_LETTER_OLD_COPTIC_HAT ~ 1CAPITAL_LETTER_OLD_COPTIC_GANGIA ~
1CAPITAL_LETTER_OLD_COPTIC_DJA ~ 1CAPITAL_LETTER_OLD_COPTIC_SHIMA ~
1CAPITAL_LETTER_OLD_NUBIAN_SHIMA ~ 1CAPITAL_LETTER_OLD_NUBIAN_NGI ~ 1CAPITAL_LETTER_OLD_NUBIAN_NYI
~ 1CAPITAL_LETTER_OLD_NUBIAN_WAU ~ 1SYMBOL_KAI 2MI_RO 2PI_RO 2STAUROS 2TAU_RO 2KHI_RO 2SHIMA_SIMA
1CAPITAL_LETTER_CRYPTOGRAMMIC_SHEI ~ 1CAPITAL_LETTER_CRYPTOGRAMMIC_GANGIA ~ 1COMBINING_NI_ABOVE
2SPIRITUS_ASPER 3LENIS 1CAPITAL_LETTER_BOHAIRIC_KHEI ~ @2CF9 1OLD_NUBIAN_FULL_STOP
3DIRECT_QUESTION_MARK 3INDIRECT_QUESTION_MARK 3VERSE_DIVIDER 1FRACTION_ONE_HALF 1FULL_STOP
1MORPHOLOGICAL_DIVIDER 0GEORGIAN_SMALL_LETTER_AN 3BAN 3GAN 3DON 3EN 3VIN 3ZEN 3TAN 3IN 3KAN 3LAS
3MAN 3NAR 3ON 3PAR 3ZHAR 3RAE 3SAN 3TAR 3UN 3PHAR 3KHAR 3GHAN 3QAR 3SHIN 3CHIN 3CAN 3JIL 3CIL
3CHAR 3XAN 3JHAN 3HAE 3HE 3HIE 3WE 3HAR 3HOE @2D27 3YN @2D2D 3AEN @2D30 0TIFINAGH_LETTER_YA 2YAB
2YABH 2YAG 2YAGHH 2BERBER_ACADEMY_YAJ 2YAJ 2YAD 2YADH 2YADD 2YADDH 2YEY 2YAF 2YAK 2TUAREG_YAK
2YAKHH 2YAH 2BERBER_ACADEMY_YAH 2TUAREG_YAH 2YAHH 2YAA 2YAKH 2TUAREG_YAKH 2YAQ 2TUAREG_YAQ 2YI
2YAZH 2AHAGGAR_YAZH 2TUAREG_YAZH 2YAL 2YAM 2YAN 2TUAREG_YAGN 3YANG 2YAP 2YU 2YAR 2YARR 2YAGH
2TUAREG_YAGH 2AYER_YAGH 2YAS 2YASS 2YASH 2YAT 2YATH 2YACH 2YATT 2YAV 2YAW 2YAY 2YAZ
2TAWELLEMET_YAZ 2YAZZ 2YE 2YO @2D6F 1MODIFIER_LETTER_LABIALIZATION_MARK 1SEPARATOR_MARK @2D7F
1CONSONANT_JOINER 0ETHIOPIC_SYLLABLE_LOA 2MOA 2ROA 2SOA 2SHOA 2BOA 2TOA 2COA 2NOA 2NYOA
2GLOTTAL_OA 2ZOA 2DOA 2DDOA 2JOA 2THOA 2CHOA 2PHOA 2POA 2GGWA 2GGWI 2GGWEE 2GGWE @2DA0 2SSA 2SSU
2SSI 2SSAA 2SSEE 2SSE 2SSO @2DA8 2CCA 2CCU 2CCI 2CCAA 2CCEE 2CCE 2CCO @2DB0 2ZZA 2ZZU 2ZZI 2ZZAA
2ZZEE 2ZZE 2ZZO @2DB8 2CCHA 2CCHU 2CCHI 2CCHAA 2CCHEE 2CCHE 2CCHO @2DC0 2QYA 2QYU 2QYI 2QYAA 2QYEE
2QYE 2QYO @2DC8 2KYA 2KYU 2KYI 2KYAA 2KYEE 2KYE 2KYO @2DD0 2XYA 2XYU 2XYI 2XYAA 2XYEE 2XYE 2XYO
@2DD8 2GYA 2GYU 2GYI 2GYAA 2GYEE 2GYE 2GYO @2DE0 0COMBINING_CYRILLIC_LETTER_BE 3VE 3GHE 3DE 3ZHE
3ZE 3KA 3EL 3EM 3EN 3O 3PE 3ER 3ES 3TE 3HA 3TSE 3CHE 3SHA 3SHCHA 3FITA 3ES-TE 3A 3IE 3DJERV
3MONOGRAPH_UK 3YAT 3YU 3IOTIFIED_A 3LITTLE_YUS 3BIG_YUS 3IOTIFIED_BIG_YUS
0RIGHT_ANGLE_SUBSTITUTION_MARKER 2DOTTED_SUBSTITUTION_MARKER 0LEFT_SUBSTITUTION_BRACKET
0RIGHT_SUBSTITUTION_BRACKET 0LEFT_DOTTED_SUBSTITUTION_BRACKET 0RIGHT_DOTTED_SUBSTITUTION_BRACKET
0RAISED_INTERPOLATION_MARKER 1DOTTED_INTERPOLATION_MARKER 0DOTTED_TRANSPOSITION_MARKER
0LEFT_TRANSPOSITION_BRACKET 0RIGHT_TRANSPOSITION_BRACKET 0RAISED_SQUARE
0LEFT_RAISED_OMISSION_BRACKET 0RIGHT_RAISED_OMISSION_BRACKET 0EDITORIAL_CORONIS 0PARAGRAPHOS
0FORKED_PARAGRAPHOS 0REVERSED_FORKED_PARAGRAPHOS 0HYPODIASTOLE 0DOTTED_OBELOS 0DOWNWARDS_ANCORA
0UPWARDS_ANCORA 0DOTTED_RIGHT-POINTING_ANGLE 0DOUBLE_OBLIQUE_HYPHEN 0INVERTED_INTERROBANG
0PALM_BRANCH 0HYPHEN_WITH_DIAERESIS 0TILDE_WITH_RING_ABOVE 0LEFT_LOW_PARAPHRASE_BRACKET
0RIGHT_LOW_PARAPHRASE_BRACKET 0TILDE_WITH_DOT_ABOVE 3BELOW 0LEFT_VERTICAL_BAR_WITH_QUILL
0RIGHT_VERTICAL_BAR_WITH_QUILL 0TOP_LEFT_HALF_BRACKET 1RIGHT_HALF_BRACKET
0BOTTOM_LEFT_HALF_BRACKET 1RIGHT_HALF_BRACKET 0LEFT_SIDEWAYS_U_BRACKET 0RIGHT_SIDEWAYS_U_BRACKET
0LEFT_DOUBLE_PARENTHESIS 0RIGHT_DOUBLE_PARENTHESIS 0TWO_DOTS_OVER_ONE_DOT_PUNCTUATION
0ONE_DOT_OVER_TWO_DOTS_PUNCTUATION 0SQUARED_FOUR_DOT_PUNCTUATION 0FIVE_DOT_MARK
0REVERSED_QUESTION_MARK 0VERTICAL_TILDE 0RING_POINT 0WORD_SEPARATOR_MIDDLE_DOT 0TURNED_COMMA
0RAISED_DOT 1COMMA 0TURNED_SEMICOLON 0DAGGER_WITH_LEFT_GUARD 2RIGHT_GUARD 0TURNED_DAGGER
0TOP_HALF_SECTION_SIGN 0TWO-EM_DASH 0THREE-EM_DASH 0STENOGRAPHIC_FULL_STOP 0VERTICAL_SIX_DOTS
0WIGGLY_VERTICAL_LINE 0CAPITULUM 0DOUBLE_HYPHEN 0REVERSED_COMMA
0DOUBLE_LOW-REVERSED-9_QUOTATION_MARK 0DASH_WITH_LEFT_UPTURN 0DOUBLE_SUSPENSION_MARK
0INVERTED_LOW_KAVYKA 3WITH_KAVYKA_ABOVE 0LOW_KAVYKA 2WITH_DOT 0DOUBLE_STACKED_COMMA
0DOTTED_SOLIDUS 0TRIPLE_DAGGER 0MEDIEVAL_COMMA 0PARAGRAPHUS_MARK 0PUNCTUS_ELEVATUS_MARK
0CORNISH_VERSE_DIVIDER 0CROSS_PATTY_WITH_RIGHT_CROSSBAR 3LEFT_CROSSBAR 0TIRONIAN_SIGN_CAPITAL_ET
0MEDIEVAL_EXCLAMATION_MARK 1QUESTION_MARK 0LEFT_SQUARE_BRACKET_WITH_STROKE
0RIGHT_SQUARE_BRACKET_WITH_STROKE 0LEFT_SQUARE_BRACKET_WITH_DOUBLE_STROKE
0RIGHT_SQUARE_BRACKET_WITH_DOUBLE_STROKE 0TOP_HALF_LEFT_PARENTHESIS 2RIGHT_PARENTHESIS
0BOTTOM_HALF_LEFT_PARENTHESIS 2RIGHT_PARENTHESIS 0OBLIQUE_HYPHEN @2E80 0CJK_RADICAL_REPEAT 2CLIFF
2SECOND_ONE 3TWO 3THREE 2PERSON 2BOX 2TABLE 2KNIFE_ONE 3TWO 2DIVINATION 2SEAL 2SMALL_ONE 3TWO
2LAME_ONE 3TWO 3THREE 3FOUR 2SNAKE 2THREAD 2SNOUT_ONE 3TWO 2HEART_ONE 3TWO 2HAND 2RAP @2E9B 2CHOKE
2SUN 2MOON 2DEATH 2MOTHER 2CIVILIAN 2WATER_ONE 3TWO 2FIRE 2PAW_ONE 3TWO
2SIMPLIFIED_HALF_TREE_TRUNK 2COW 2DOG 2JADE 2BOLT_OF_CLOTH 2EYE 2SPIRIT_ONE 3TWO 2BAMBOO 2SILK
2C-SIMPLIFIED_SILK 2NET_ONE 3TWO 3THREE 3FOUR 2MESH 2SHEEP 2RAM 2EWE 2OLD 2BRUSH_ONE 3TWO 2MEAT
2MORTAR 2GRASS_ONE 3TWO 3THREE 2TIGER 2CLOTHES 2WEST_ONE 3TWO 2C-SIMPLIFIED_SEE 2SIMPLIFIED_HORN
2HORN 2C-SIMPLIFIED_SPEECH 3SHELL 2FOOT 2C-SIMPLIFIED_CART 2SIMPLIFIED_WALK 2WALK_ONE 3TWO 2CITY
2C-SIMPLIFIED_GOLD 2LONG_ONE 3TWO 2C-SIMPLIFIED_LONG 3GATE 2MOUND_ONE 3TWO 2RAIN 2BLUE
2C-SIMPLIFIED_TANNED_LEATHER 3LEAF 3WIND 3FLY 2EAT_ONE 3TWO 3THREE 2C-SIMPLIFIED_EAT 2HEAD
2C-SIMPLIFIED_HORSE 2BONE 2GHOST 2C-SIMPLIFIED_FISH 3BIRD 3SALT 2SIMPLIFIED_WHEAT 3YELLOW
2C-SIMPLIFIED_FROG 2J-SIMPLIFIED_EVEN 2C-SIMPLIFIED_EVEN 2J-SIMPLIFIED_TOOTH 2C-SIMPLIFIED_TOOTH
2J-SIMPLIFIED_DRAGON 2C-SIMPLIFIED_DRAGON 2TURTLE 2J-SIMPLIFIED_TURTLE 2C-SIMPLIFIED_TURTLE @2F00
0KANGXI_RADICAL_ONE 2LINE 2DOT 2SLASH 2SECOND 2HOOK 2TWO 2LID 2MAN 2LEGS 2ENTER 2EIGHT 2DOWN_BOX
2COVER 2ICE 2TABLE 2OPEN_BOX 2KNIFE 2POWER 2WRAP 2SPOON 2RIGHT_OPEN_BOX 2HIDING_ENCLOSURE 2TEN
2DIVINATION 2SEAL 2CLIFF 2PRIVATE 2AGAIN 2MOUTH 2ENCLOSURE 2EARTH 2SCHOLAR 2GO 3SLOWLY 2EVENING
2BIG 2WOMAN 2CHILD 2ROOF 2INCH 2SMALL 2LAME 2CORPSE 2SPROUT 2MOUNTAIN 2RIVER 2WORK 2ONESELF
2TURBAN 2DRY 2SHORT_THREAD 2DOTTED_CLIFF 2LONG_STRIDE 2TWO_HANDS 2SHOOT 2BOW 2SNOUT 2BRISTLE 2STEP
2HEART 2HALBERD 2DOOR 2HAND 2BRANCH 2RAP 2SCRIPT 2DIPPER 2AXE 2SQUARE 2NOT 2SUN 2SAY 2MOON 2TREE
2LACK 2STOP 2DEATH 2WEAPON 2DO_NOT 2COMPARE 2FUR 2CLAN 2STEAM 2WATER 2FIRE 2CLAW 2FATHER 2DOUBLE_X
2HALF_TREE_TRUNK 2SLICE 2FANG 2COW 2DOG 2PROFOUND 2JADE 2MELON 2TILE 2SWEET 2LIFE 2USE 2FIELD
2BOLT_OF_CLOTH 2SICKNESS 2DOTTED_TENT 2WHITE 2SKIN 2DISH 2EYE 2SPEAR 2ARROW 2STONE 2SPIRIT 2TRACK
2GRAIN 2CAVE 2STAND 2BAMBOO 2RICE 2SILK 2JAR 2NET 2SHEEP 2FEATHER 2OLD 2AND 2PLOW 2EAR 2BRUSH
2MEAT 2MINISTER 2SELF 2ARRIVE 2MORTAR 2TONGUE 2OPPOSE 2BOAT 2STOPPING 2COLOR 2GRASS 2TIGER 2INSECT
2BLOOD 2WALK_ENCLOSURE 2CLOTHES 2WEST 2SEE 2HORN 2SPEECH 2VALLEY 2BEAN 2PIG 2BADGER 2SHELL 2RED
2RUN 2FOOT 2BODY 2CART 2BITTER 2MORNING 2WALK 2CITY 2WINE 2DISTINGUISH 2VILLAGE 2GOLD 2LONG 2GATE
2MOUND 2SLAVE 2SHORT_TAILED_BIRD 2RAIN 2BLUE 2WRONG 2FACE 2LEATHER 2TANNED_LEATHER 2LEEK 2SOUND
2LEAF 2WIND 2FLY 2EAT 2HEAD 2FRAGRANT 2HORSE 2BONE 2TALL 2HAIR 2FIGHT 2SACRIFICIAL_WINE 2CAULDRON
2GHOST 2FISH 2BIRD 2SALT 2DEER 2WHEAT 2HEMP 2YELLOW 2MILLET 2BLACK 2EMBROIDERY 2FROG 2TRIPOD 2DRUM
2RAT 2NOSE 2EVEN 2TOOTH 2DRAGON 2TURTLE 2FLUTE @2FF0
0IDEOGRAPHIC_DESCRIPTION_CHARACTER_LEFT_TO_RIGHT 3ABOVE_TO_BELOW 3LEFT_TO_MIDDLE_AND_RIGHT
3ABOVE_TO_MIDDLE_AND_BELOW 3FULL_SURROUND 3SURROUND_FROM_ABOVE 5BELOW 5LEFT 5UPPER_LEFT 6RIGHT
5LOWER_LEFT 3OVERLAID"

end Rubric.Text.CharacterName
