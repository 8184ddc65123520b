/-!
# Names of characters that begin with `A` to `B`

The names of characters and their aliases, in their order. Each is written as what it differs in from
the one in front of it (`SchemaPress.Text.CharacterName`).
-/

namespace SchemaPress.Text.CharacterName

/-- The names that begin with `A` to `B`. -/
def fromA : List String := [
  "aABACUSfC CURRENTiCORDIONfUNT OFiKaNOWLEDGEjTIVATE ARABIC FORM SHAPINGtSYMMETRIC SWAPPINGzUTE ",
  "ACCENTfNGLEkDDRESSED TO THE SUBJECTwHESIVE BANDAGEoI SHAKTIiLAM ALIF LENGTHENERpCAPITAL LETTER",
  " ALIFeBAbHEdCHIdDAALIeHAdEbFAcGAbBEdHAcIbJIIMeKAFcHAcPOdLAAMeMIIMeNHAcUNcYAdObPEcQAAFeRAcSHAcI",
  "NNYIIYHEkTUcUbVAcWAWdYAbHEdZALrONSONANT MODIFIERsDIGIT EIGHTfFIVEdOUReNINEeONEdSEVENeIXdTHREEe",
  "WOdZEROkGEMINATE CONSONANT MODIFIERuION MARKpHAMZAfINITIAL EXCLAMATION MARKqQUESTION MARKvNASA",
  "LIZATION MARKqUKTAfSMALL LETTER ALIFeBAbHEdCHIdDAALIeHAdEbFAcGAbBEdHAcIbJIIMeKAFcHAcPOdLAAMeMI",
  "IMeNHAcUNcYAdObPEcQAAFeRAcSHAcINNYIIYHEkTUcUbVAcWAWdYAbHEdZALqVOWEL LENGTHENERuMETOSeISSION TI",
  "CKETSpULTeEGEAN CHECK MARKkDRY MEASURE FIRST SUBUNITzLIQUID MEASURE FIRST SUBUNIT+cMEASURE SEC",
  "OND SUBUNIToTHIRD SUBUNITvNUMBER EIGHTa HUNDREDhTHOUSANDjYa THOUSANDpFIFTYa THOUSANDmVEa HUNDR",
  "EDhTHOUSANDmORTYa THOUSANDmURa HUNDREDhTHOUSANDnNINEa HUNDREDhTHOUSANDjTYa THOUSANDpONEa HUNDR",
  "EDhTHOUSANDmSEVENa HUNDREDhTHOUSANDjTYa THOUSANDpIXa HUNDREDhTHOUSANDjTYa THOUSANDoTENa THOUSA",
  "NDlHIRTYa THOUSANDnREEa HUNDREDhTHOUSANDnWENTYa THOUSANDnOa HUNDREDhTHOUSANDtWEIGHT BASE UNITj",
  "FIRST SUBUNITmOURTH SUBUNIToSECOND SUBUNIToTHIRD SUBUNITtORD SEPARATOR DOTdLINEyRIAL TRAMWAYnF",
  "GHANI SIGNlHOM CONSONANT SIGN MEDIAL LAbIGATING RAlRAyDIGIT EIGHTfFIVEdOUReNINEeONEdSEVENeIXdT",
  "HREEeWOdZEROkLETTER AaLTERNATE BAcGAcTAmBAbHAdCAbHAdDAbDAbHAdHAdGAbHAdHAcJAbHAdKAbHAdLAbLAdMAc",
  "NAbGAcNAcYAdPAbHAdRAcSAcTAbHAcTAbHAlNUMBER TENcWENTYnSIGN KILLERgRULAIfSECTIONgMALL SECTIONrYM",
  "BOL VIjVOWEL SIGN AaAbIbMbWcEbIaIcObUaUrIRPLANEa ARRIVINGiDEPARTURErKTIESELSKABlLARM CLOCKjCHE",
  "MICAL SYMBOL FOR AIRcLEMBICfKALIa-2gUMdMALGAMgNTIMONY ORElQUA REGIAa-2hVITAEa-2iFORTISjRSENICg",
  "SHESeURIPIGMENTlBATH OF MARYeVAPOURSoISMUTH OREkLACK SULFURlORAXa-2b3gRICKfCADUCEUSgLXcPUT MOR",
  "TUUMmINNABARhOPPER ANTIMONIATElOREjROCUS OF COPPERa-2iIRONmUCIBLEa-2b3b4b5kDAY-NIGHTiISSOLVEa-",
  "2hTILLhEARTHfFIREeGOLDdUMdHALF DRAMeOUNCEjORSE DUNGiUReIRON OREa-2g-COPPER OREpLEAD OREhODESTO",
  "NEjMARCASITEiERCURY SUBLIMATEa-2b3sONTHfNIGHTdTREfOILdPHILOSOPHERS SULFURsOT ASHEShWDERaED BRI",
  "CKnRECIPITATEkURIFYeTREFACTIONmQUICK LIMEhNTESSENCEmREALGARa-2hGULUSa OF ANTIMONYa-2kIRONi-2b3",
  "b4hTORTfOCK SALTa-2lSAL-AMMONIACjTa OF ANTIMONYiCOPPER ANTIMONIATEzCEPTER OF JOVEoILVERfOAPdPI",
  "RITfTARRED TRIDENTnRATUM SUPER STRATUMa-2wUBLIMATE OF ANTIMONYiCOPPERgSALT OF ANTIMONYiCOPPERt",
  "IONjLFURgTARTARa-2hIN OREeCTUREhRIDENTgUTTYfURINEfVERDIGRISiINEGARa OF ANTIMONYm-2b3hTRIOLa-2j",
  "WATERdXxEF SYMBOLiMBICeRTdIEN MONSTERlL AROUND-PROFILEoEQUAL TOkMaOST EQUAL OR EQUAL TOlTOa WI",
  "TH CIRCUMFLEX ACCENT+kTERNATE ONE-WAY LEFT WAY TRAFFIC+aIVE KEY SYMBOLvMALGAMATION OR COPRODUC",
  "TxBULANCEhERICAN FOOTBALLpPERSANDgHORAgNATOLIAN HIEROGLYPH A001b2b3b4b5b6b7b8b9c10aAc1b2b3b4b5",
  "b6b7b8b9c20b1b2b3b4b5b6aAc7b8b9c30b1b2b3b4b5b6b7b8b9aAd40b1aAc2b3b4b5aAc6aAbBc7b8b9c50b1b2b3b4",
  "b5b6b7b8b9c60b1b2b3b4b5b6aAbBbCc7b8b9c70b1b2b3b4b5b6b7b8b9c80b1b2b3b4b5b6b7b8b9c90b1b2b3b4b5b6",
  "b7aAc8aAc9d100aAc1aAc2aAc3b4aAbBbCc5aAbBc6b7aAbBbCc8b9c10aAbBc1b2b3b4b5aAc6b7b8b9c20b1b2b3b4b5",
  "aAc6b7b8b9c30b1b2b3b4b5aAc6b7b8b9c40b1b2b3b4b5b6b7b8b9c50b1b2b3b4b5b6b7b8b9c60b1b2b3b4b5b6b7b8",
  "b9c70b1b2b3b4b5b6b7b8b9c80b1b2b3b4b5b6b7b8b9c90b1b2b3b4b5b6b7b8b9d200b1b2aAbBc3b4b5b6b7aAc8b9a",
  "Ad10b1b2b3b4b5aAc6aAc7b8b9c20b1b2b3b4b5b6b7aAc8b9c30b1b2b3b4b5b6b7b8b9c40b1b2b3b4b5b6b7b8b9c50",
  "b1b2b3b4b5b6b7b8b9c60b1b2b3b4b5b6b7aAc8b9c70b1b2b3b4b5b6b7b8b9c80b1b2b3b4b5b6b7b8b9aAd90b1b2b3",
  "b4aAc5b6b7b8b9aAe300b1b2b3b4b5b6b7b8b9aAd10b1b2b3b4b5b6b7b8b9c20b1b2b3b4b5b6b7b8b9aAd30b1b2AbB",
  "bCc3b4b5b6aAbBbCc7b8b9c40b1b2b3b4b5b6b7b8b9c50b1b2b3b4b5b6b7b8b9aAd60b1b2b3b4aAc5b6b7b8aAc9c70",
  "b1aAc2b3b4b5b6b7b8b9c80b1aAc2b3 RA OR RIjAc4b5b6aAc7b8b9c90b1b2b3 EIGHTh4b5b6b7b8b9d400b1b2b3b",
  "4b5b6b7b8b9c10 BEGIN LOGOGRAM MARKuA END LOGOGRAM MARKu1b2b3b4b5b6b7b8b9c20b1b2b3b4b5b6b7b8b9c",
  "30b1b2b3b4b5b6b7b8b9c40b1b2b3b4b5b6b7b8b9c50aAc1b2b3b4b5b6b7aAc8b9c60b1b2b3b4b5b6b7b8b9c70b1b2",
  "b3b4b5b6b7b8b9c80b1b2b3b4b5b6b7b8b9c90b1b2b3b4b5b6b7d501b2b3b4b5b6b7b8b9c10b1b2b3b4b5b6b7b8b9c",
  "20b1b2b3b4b5b6b7b8b9c30uMICAL HEARToCHOReD WITH DOTkGER SYMBOLjLEa WITH S INSIDEiUNDERBARqRY F",
  "ACEhSTROM SIGNkUISHED FACEmKHcTaENNA WITH BARSoICLOCKWISE CLOSED CIRCLE ARROWsONTOUR INTEGRALq",
  "DOWNWARDS AND UPWARDS OPEN CIRCLE ARROWS+oGAPPED CIRCLE ARROWtINTEGRATIONlOPEN CIRCLE ARROWrTO",
  "P SEMICIRCLE ARROWtRIANGLE-HEADED BOTTOM U-SHAPED ARROWvLEFT U-SHAPED ARROWtOPEN CIRCLE ARROWr",
  "RIGHT U-SHAPED ARROWuTOP U-SHAPED ARROW+vPCbL FUNCTIONAL SYMBOL ALPHAa UNDERBARoBACKSLASH BARn",
  "CIRCLE BACKSLASHjDIAERESISjJOTdSTARcILEfUNDERBARoOMMA BARjDEL DIAERESISjSTILEfTILDEgTA STILEfU",
  "NDERBARnIAMOND UNDERBARpOWN CARET TILDElSHOE STILEkTACK JOTdUNDERBARoWARDS VANEoEPSILON UNDERB",
  "ARqGREATER-THAN DIAERESISwI-BEAMfOTAa UNDERBARnJOT DIAERESISjUNDERBARmLEFT SHOE STILElWARDS VA",
  "NEoOMEGAa UNDERBARoQUADa BACKSLASHjCIRCLEfOLONfDELaTAeIAMONDfVIDEfOWN CARETgWARDS ARROWpEQUALf",
  "GREATER-THANmJOTdLEFTWARDS ARROWnSS-THANjNOT EQUALjQUESTIONiRIGHTWARDS ARROWqSLASHfUP CARETgWA",
  "RDS ARROWqOTE QUADeUNDERBARoRHOcIGHTWARDS VANEpSEMICOLON UNDERBARrLASH BARiQUISH QUADkTAR DIAE",
  "RESISmILE TILDElTILDE DIAERESISpUP CARET TILDElSHOE JOTiTACK DIAERESISjJOTdOVERBARnWARDS VANEm",
  "ZILDEzOLLONeSTROPHEiPLICATION PROGRAM COMMANDyROACHES THE LIMITpXIMATELY BUT NOT ACTUALLY EQUA",
  "L TOzEQUAL OR EQUAL TOlTOa OR THE IMAGE OF+lQUARIUShRABIC BASELINE ROUND DOTsCOMMAeURLY DAMMAa",
  "TANiFATHAaTANiKASRAaTANoDAMMAa ISOLATED FORMnMEDIAL FORMlWITH DOTjTANa ISOLATED FORMuTE SEPARA",
  "TORnECIMAL SEPARATORqISPUTED END OF AYAHtOUBLE RIGHT ARROWHEAD ABOVEa WITH DOT+fD MADDAnEMPTY ",
  "CENTRE HIGH STOPjLOW STOPuND OF AYAHeTEXT MARKqFATHAa ISOLATED FORMnMEDIAL FORMlWITH DOT ABOVE",
  "jRINGeTWO DOTSoTANa ISOLATED FORMvIVE POINTED STARqOOTNOTE MARKERoULL STOPjHALF MADDA OVER MAD",
  "DAtMZA ABOVEfBELOWlINVERTED DAMMAoKASRAa ISOLATED FORMnMEDIAL FORMlWITH DOT BELOWpTANa ISOLATE",
  "D FORMwLARGE CIRCLE BELOWmROUND DOT ABOVEfBELOWfINSIDE CIRCLE BELOW+iEFT ARROWHEAD ABOVEfBELOW",
  "sTTER AEbFRICAN FEHdNOONeQAFa WITH THREE DOTS ABOVE+gINa FINAL FORMkINITIAL FORMlSOLATED FORMn",
  "MEDIAL FORMlWITH THREE DOTS ABOVEfBELOWfPOINTING DOWNWARDS ABOVE+iWO DOTS ABOVEfVERTICALLY ABO",
  "VE+hLEFa FINAL FORMkISOLATED FORMnMAKSURAa FINAL FORMkISOLATED FORMvWASLAa FINAL FORMkISOLATED",
  " FORMsITH ATTACHED BOTTOM RIGHT KASRAa AND DOT ABOVEjLEFT RING+gFATHAfKASRAfLEFT HAMZAfROUND D",
  "OToRIGHT HAMZAfROUND DOToOUND DOT ABOVEfBELOWpTOP RIGHT FATHAa AND DOT ABOVEjLEFT RING+mDOT AB",
  "OVEjEXTENDED ARABIC-INDIC DIGIT THREE ABOVEkWO ABOVE+lHAMZA ABOVEa FINAL FORMkISOLATED FORMtBE",
  "LOWa FINAL FORMkISOLATED FORMzLEFT MIDDLE STROKEsMADDA ABOVEa FINAL FORMkISOLATED FORMzRIGHT M",
  "IDDLE STROKEa AND DOT ABOVEjLEFT RING+hWAVY HAMZA ABOVEfBELOW+aBEEHa FINAL FORMkINITIAL FORMlS",
  "OLATED FORMnMEDIAL FORMoHa FINAL FORMkINITIAL FORMlSOLATED FORMnMEDIAL FORMlWITH DOT BELOW AND",
  " THREE DOTS ABOVE+eHAMZA ABOVElINVERTED SMALL V BELOWwSMALL MEEM ABOVEkVa BELOWnTHREE DOTS HOR",
  "IZONTALLY BELOWsPOINTING UPWARDS BELOWa AND TWO DOTS ABOVE+zWO DOTS BELOW AND DOT ABOVE+iEHa F",
  "INAL FORMkINITIAL FORMlSOLATED FORMnMEDIAL FORMrDADa FINAL FORMkINITIAL FORMlSOLATED FORMnMEDI",
  "AL FORMlWITH DOT BELOWqHALa FINAL FORMkISOLATED FORMrLa FINAL FORMkISOLATED FORMnWITH DOT BELO",
  "Wa AND SMALL TAHxFOUR DOTS ABOVEpINVERTED SMALL V BELOWnVkRINGeTHREE DOTS ABOVE DOWNWARDSpBELO",
  "WpWO DOTS VERTICALLY BELOW AND SMALL TAH+vDAHALa FINAL FORMkISOLATED FORMrLa FINAL FORMkISOLAT",
  "ED FORMrOTLESS BEHdFEHdQAFkULa FINAL FORMkISOLATED FORMqYEHa FINAL FORMkINITIAL FORMlSOLATED F",
  "ORMnMEDIAL FORMqEa FINAL FORMkINITIAL FORMlSOLATED FORMnMEDIAL FORMnFARSI YEHa FINAL FORMkINIT",
  "IAL FORMlSOLATED FORMnMEDIAL FORMlWITH EXTENDED ARABIC-INDIC DIGIT FOUR BELOWkTHREE ABOVEkWO A",
  "BOVE+lINVERTED VkTHREE DOTS ABOVEpWO DOTS ABOVE+cEHa FINAL FORMkINITIAL FORMlSOLATED FORMnMEDI",
  "AL FORMlWITH DOT BELOWa AND THREE DOTS ABOVE+aMOVED BELOWpTHREE DOTS BELOWfPOINTING UPWARDS BE",
  "LOW+gWO DOTS BELOWxGAFa FINAL FORMkINITIAL FORMlSOLATED FORMnMEDIAL FORMlWITH INVERTED STROKEp",
  "RINGeTHREE DOTS ABOVEpWO DOTS BELOWwHAINa FINAL FORMkINITIAL FORMlSOLATED FORMnMEDIAL FORMlWIT",
  "H DOT BELOWjTHREE DOTS ABOVE+aRAFdUEHa FINAL FORMkINITIAL FORMlSOLATED FORMnMEDIAL FORMqHAHa F",
  "INAL FORMkINITIAL FORMlSOLATED FORMnMEDIAL FORMlWITH EXTENDED ARABIC-INDIC DIGIT FOUR BELOW+mH",
  "AMZA ABOVElINVERTED SMALL V BELOWwSMALL ARABIC LETTER TAH ABOVEeND TWO DOTSmBELOW+dTHREE DOTS ",
  "ABOVEfPOINTING UPWARDS BELOW+gWO DOTS ABOVEfVERTICAL ABOVE+eMZAa ISOLATED FORMsEHa DOACHASHMEE",
  "a FINAL FORMkINITIAL FORMlSOLATED FORMnMEDIAL FORMxFINAL FORMkGOALa FINAL FORMkINITIAL FORMlSO",
  "LATED FORMnMEDIAL FORMlWITH HAMZA ABOVEvINITIAL FORMlSOLATED FORMnMEDIAL FORMlWITH INVERTED Vk",
  "YEH ABOVEa FINAL FORMkISOLATED FORM+fIGH HAMZAa ALEFeWAWdYEHoJEEMa FINAL FORMkINITIAL FORMlSOL",
  "ATED FORMnMEDIAL FORMlWITH THREE DOTS ABOVEfBELOWpWO DOTS ABOVEwHa FINAL FORMkISOLATED FORMrKA",
  "Fa FINAL FORMkINITIAL FORMlSOLATED FORMnMEDIAL FORMlWITH DOT ABOVEfBELOWjRINGeTHREE DOTS BELOW",
  "pWO DOTS ABOVEvSHMIRI YEHlEHEHa FINAL FORMkINITIAL FORMlSOLATED FORMnMEDIAL FORMlWITH DOT ABOV",
  "EjSMALL VhTHREE DOTS ABOVEfBELOWfPOINTING UPWARDS BELOW+gWO DOTS ABOVEfVERTICALLY BELOW+jHAHa ",
  "FINAL FORMkINITIAL FORMlSOLATED FORMnMEDIAL FORMpIRGHIZ OEa FINAL FORMkISOLATED FORMqYUa FINAL",
  " FORMkISOLATED FORMyLAMa FINAL FORMkINITIAL FORMlSOLATED FORMnMEDIAL FORMlWITH BARdDOT ABOVEhU",
  "BLE BARkSMALL ARABIC LETTER TAH ABOVExVhTHREE DOTS ABOVEfBELOWyOW ALEFiMARKdEEMa FINAL FORMkIN",
  "ITIAL FORMlSOLATED FORMnMEDIAL FORMlWITH DOT ABOVEfBELOWjTHREE DOTS ABOVE+aNGa FINAL FORMkINIT",
  "IAL FORMlSOLATED FORMnMEDIAL FORMmOEHa FINAL FORMkINITIAL FORMlSOLATED FORMnMEDIAL FORMqOONa F",
  "INAL FORMkGHUNNAa FINAL FORMkISOLATED FORMuINITIAL FORMlSOLATED FORMnMEDIAL FORMlWITH DOT BELO",
  "WjINVERTED SMALL VqRINGeSMALL TAHdVhTHREE DOTS ABOVEpWO DOTS BELOWxYEHa FINAL FORMkINITIAL FOR",
  "MlSOLATED FORMnMEDIAL FORMqOEa FINAL FORMkISOLATED FORMqPEHa FINAL FORMkINITIAL FORMlSOLATED F",
  "ORMnMEDIAL FORMlWITH SMALL MEEM ABOVEkVnEHa FINAL FORMkINITIAL FORMlSOLATED FORMnMEDIAL FORMrQ",
  "AFa FINAL FORMkINITIAL FORMlSOLATED FORMnMEDIAL FORMlWITH DOT ABOVEfBELOWa AND NO DOTS ABOVE+b",
  "THREE DOTS ABOVEzREHa FINAL FORMkISOLATED FORMnWITH DOT BELOWa AND DOT ABOVExFOUR DOTS ABOVEpH",
  "AMZA ABOVElINVERTED VkLOOPeRINGeSMALL ARABIC LETTER TAH AND TWO DOTS+eNOON ABOVEkVa BELOWmTROK",
  "EgTWO DOTS ABOVEfVERTICALLY ABOVE+hNOONa FINAL FORMkINITIAL FORMlSOLATED FORMnMEDIAL FORMqOHIN",
  "GYA YEHlREHa FINAL FORMkISOLATED FORMsSADa FINAL FORMkINITIAL FORMlSOLATED FORMnMEDIAL FORMlWI",
  "TH THREE DOTS ABOVEfBELOWpWO DOTS BELOWwEENa FINAL FORMkINITIAL FORMlSOLATED FORMnMEDIAL FORMl",
  "WITH DOT BELOW AND DOT ABOVExEXTENDED ARABIC-INDIC DIGIT FOUR ABOVE+mFOUR DOTS ABOVEpINVERTED ",
  "VkSMALL ARABIC LETTER TAH AND TWO DOTS+kTHREE DOTS BELOWa AND THREE DOTS ABOVE+kWO DOTS VERTIC",
  "ALLY ABOVE+iHEENa FINAL FORMkINITIAL FORMlSOLATED FORMnMEDIAL FORMlWITH DOT BELOWtTRAIGHT WAWl",
  "UPERSCRIPT ALEFpWASH KAFjTAHa FINAL FORMkINITIAL FORMlSOLATED FORMnMEDIAL FORMlWITH DOT BELOWj",
  "THREE DOTS ABOVEfBELOWpWO DOTS ABOVEwCHEHa FINAL FORMkINITIAL FORMlSOLATED FORMnMEDIAL FORMlWI",
  "TH DOT ABOVEjSMALL VnEHa FINAL FORMkINITIAL FORMlSOLATED FORMnMEDIAL FORMsEHa FINAL FORMkINITI",
  "AL FORMlSOLATED FORMnMARBUTAa FINAL FORMkGOALeISOLATED FORMuEDIAL FORMlWITH RINGeSMALL TEH ABO",
  "VEjVhTHREE DOTS ABOVE DOWNWARDS+gEHa FINAL FORMkINITIAL FORMlSOLATED FORMnMEDIAL FORMqHALa FIN",
  "AL FORMkISOLATED FORMqEHa FINAL FORMkINITIAL FORMlSOLATED FORMnMEDIAL FORMoIN YEHhTEHa FINAL F",
  "ORMkINITIAL FORMlSOLATED FORMnMEDIAL FORMlWITH SMALL VnEHa FINAL FORMkINITIAL FORMlSOLATED FOR",
  "MnMEDIAL FORMsUa FINAL FORMkISOLATED FORMnWITH HAMZA ABOVEa ISOLATED FORM+fIGHUR KAZAKH KIRGHI",
  "Z ALEF MAKSURA INITIAL FORMmMEDIAL FORM+uVEa FINAL FORMkISOLATED FORMoHa FINAL FORMkINITIAL FO",
  "RMlSOLATED FORMnMEDIAL FORMpWAWa FINAL FORMkISOLATED FORMnWITH DOT ABOVEfWITHINkEXTENDED ARABI",
  "C-INDIC DIGIT THREE ABOVEkWO ABOVE+lHAMZA ABOVEa FINAL FORMkISOLATED FORMzRINGeTWO DOTS ABOVEx",
  "YEHa BARREEa FINAL FORMkISOLATED FORMnWITH EXTENDED ARABIC-INDIC DIGIT THREE ABOVEkWO ABOVE+lH",
  "AMZA ABOVEa FINAL FORMkISOLATED FORM+lFINAL FORMkINITIAL FORMlSOLATED FORMnMEDIAL FORMlWITH HA",
  "MZA ABOVEa FINAL FORMkINITIAL FORMlSOLATED FORMnMEDIAL FORMxSMALL VhTAILdHREE DOTS BELOWpWO DO",
  "TS BELOW AND DOT ABOVEjHAMZA ABOVElSMALL NOON ABOVE+rUa FINAL FORMkISOLATED FORMqZAHa FINAL FO",
  "RMkINITIAL FORMlSOLATED FORMnMEDIAL FORMnINa FINAL FORMkISOLATED FORMnWITH INVERTED V ABOVE+gI",
  "GATURE AIN WITH ALEF MAKSURA FINAL FORMkISOLATED FORM+aJEEM INITIAL FORMlSOLATED FORMnWITH MEE",
  "M FINAL FORMkINITIAL FORM+bMEEM INITIAL FORMlSOLATED FORMnWITH ALEF MAKSURA FINAL FORMxMEEM FI",
  "NAL FORMkINITIAL FORMrYEH FINAL FORMyYEH FINAL FORMkISOLATED FORMzKBAR ISOLATED FORMsLAYHAA AS",
  "-SALAAMmE ISOLATED FORMpI AS-SALAAMbTU WAS-SALAAMwM AS-SALAAMkAA AS-SALAAMrEF MAKSURA WITH SUP",
  "ERSCRIPT ALEF FINAL FORMkISOLATED FORM+rWITH FATHATAN FINAL FORMkISOLATED FORM+eLAH ISOLATED F",
  "ORMsZZA WA JALLmBEH WITH ALEF MAKSURA FINAL FORMkISOLATED FORM+aHAH INITIAL FORMlSOLATED FORMn",
  "WITH YEH FINAL FORMwEH INITIAL FORMmMEDIAL FORMpJEEM INITIAL FORMlSOLATED FORMsKHAH INITIAL FO",
  "RMlSOLATED FORMnWITH YEH FINAL FORMyMEEM FINAL FORMkINITIAL FORMlSOLATED FORMnMEDIAL FORMqNOON",
  " FINAL FORMpREH FINAL FORMoYEH FINAL FORMkISOLATED FORMrZAIN FINAL FORMxISMILLAH AR-RAHMAN AR-",
  "RAHEEM+dDAD WITH ALEF MAKSURA FINAL FORMkISOLATED FORM+aHAH INITIAL FORMlSOLATED FORMnWITH ALE",
  "F MAKSURA FINAL FORMxYEH FINAL FORMxJEEM INITIAL FORMlSOLATED FORMsKHAH INITIAL FORMlSOLATED F",
  "ORMnWITH MEEM FINAL FORMkINITIAL FORM+bMEEM INITIAL FORMlSOLATED FORMsREH FINAL FORMkISOLATED ",
  "FORMrYEH FINAL FORMkISOLATED FORM+aFEH WITH ALEF MAKSURA FINAL FORMkISOLATED FORM+aHAH INITIAL",
  " FORMlSOLATED FORMrJEEM INITIAL FORMlSOLATED FORMsKHAH INITIAL FORMlSOLATED FORMnWITH MEEM FIN",
  "AL FORMkINITIAL FORM+bMEEM INITIAL FORMlSOLATED FORMnWITH YEH FINAL FORMyYEH FINAL FORMkISOLAT",
  "ED FORM+aGHAIN WITH ALEF MAKSURA FINAL FORMkISOLATED FORM+aJEEM INITIAL FORMlSOLATED FORMsMEEM",
  " INITIAL FORMlSOLATED FORMnWITH ALEF MAKSURA FINAL FORMxMEEM FINAL FORMpYEH FINAL FORMyYEH FIN",
  "AL FORMkISOLATED FORM+cHAH WITH ALEF MAKSURA FINAL FORMkISOLATED FORM+aJEEM INITIAL FORMlSOLAT",
  "ED FORMnWITH YEH FINAL FORMyMEEM INITIAL FORMlSOLATED FORMnWITH ALEF MAKSURA FINAL FORMxYEH FI",
  "NAL FORMyYEH FINAL FORMkISOLATED FORMzEH WITH ALEF MAKSURA ISOLATED FORM+aJEEM INITIAL FORMlSO",
  "LATED FORMsMEEM INITIAL FORMlSOLATED FORMnWITH JEEM INITIAL FORMrMEEM INITIAL FORM+bSUPERSCRIP",
  "T ALEF INITIAL FORM+dYEH ISOLATED FORM+aJALLAJALALOUHOUoEEM WITH ALEF MAKSURA FINAL FORMkISOLA",
  "TED FORM+aHAH INITIAL FORMlSOLATED FORMnWITH ALEF MAKSURA FINAL FORMxYEH FINAL FORMxMEEM INITI",
  "AL FORMlSOLATED FORMnWITH ALEF MAKSURA FINAL FORMxHAH FINAL FORMkINITIAL FORMqYEH FINAL FORMyY",
  "EH FINAL FORMkISOLATED FORM+bKAF WITH ALEF FINAL FORMkISOLATED FORMnMAKSURA FINAL FORMkISOLATE",
  "D FORM+aHAH INITIAL FORMlSOLATED FORMrJEEM INITIAL FORMlSOLATED FORMsKHAH INITIAL FORMlSOLATED",
  " FORMsLAM FINAL FORMkINITIAL FORMlSOLATED FORMnMEDIAL FORMpMEEM FINAL FORMkINITIAL FORMlSOLATE",
  "D FORMnMEDIAL FORMlWITH MEEM FINAL FORMkINITIAL FORMrYEH FINAL FORMyYEH FINAL FORMkISOLATED FO",
  "RMzHAH WITH ALEF MAKSURA FINAL FORMkISOLATED FORM+aHAH ISOLATED FORMrJEEM INITIAL FORMlSOLATED",
  " FORMsMEEM INITIAL FORMlSOLATED FORMsYEH FINAL FORMkISOLATED FORM+bLAM WITH ALEF FINAL FORMkIS",
  "OLATED FORMnMAKSURA FINAL FORMkISOLATED FORMvWITH HAMZA ABOVE FINAL FORMkISOLATED FORMtBELOW F",
  "INAL FORMkISOLATED FORMzMADDA ABOVE FINAL FORMkISOLATED FORM+jHAH INITIAL FORMlSOLATED FORMnWI",
  "TH ALEF MAKSURA FINAL FORMxMEEM FINAL FORMkINITIAL FORMrYEH FINAL FORMwEH INITIAL FORMqJEEM IN",
  "ITIAL FORMlSOLATED FORMnWITH JEEM FINAL FORMkINITIAL FORMrMEEM FINAL FORMkINITIAL FORMrYEH FIN",
  "AL FORMyKHAH INITIAL FORMlSOLATED FORMnWITH MEEM FINAL FORMkINITIAL FORM+bMEEM FINAL FORMkINIT",
  "IAL FORMlSOLATED FORMnMEDIAL FORMlWITH HAH FINAL FORMkINITIAL FORMqYEH FINAL FORMyYEH FINAL FO",
  "RMkISOLATED FORM+aMEEM WITH ALEF FINAL FORMkMAKSURA ISOLATED FORM+aHAH INITIAL FORMlSOLATED FO",
  "RMnWITH JEEM INITIAL FORMrMEEM INITIAL FORMrYEH FINAL FORMxJEEM INITIAL FORMlSOLATED FORMnWITH",
  " HAH INITIAL FORMqKHAH INITIAL FORMrMEEM INITIAL FORMrYEH FINAL FORMyKHAH INITIAL FORMlSOLATED",
  " FORMnWITH JEEM INITIAL FORMrMEEM INITIAL FORMrYEH FINAL FORMyMEEM FINAL FORMkINITIAL FORMlSOL",
  "ATED FORMnWITH YEH FINAL FORMyYEH ISOLATED FORM+aOHAMMAD ISOLATED FORMwNOON WITH ALEF MAKSURA ",
  "FINAL FORMkISOLATED FORM+aHAH INITIAL FORMlSOLATED FORMnWITH ALEF MAKSURA FINAL FORMxMEEM INIT",
  "IAL FORMrYEH FINAL FORMwEH INITIAL FORMmMEDIAL FORMpJEEM INITIAL FORMlSOLATED FORMnWITH ALEF M",
  "AKSURA FINAL FORMxHAH FINAL FORMkINITIAL FORMqMEEM FINAL FORMkINITIAL FORMrYEH FINAL FORMyKHAH",
  " INITIAL FORMlSOLATED FORMsMEEM FINAL FORMkINITIAL FORMlSOLATED FORMnMEDIAL FORMlWITH ALEF MAK",
  "SURA FINAL FORMxYEH FINAL FORMyNOON FINAL FORMpREH FINAL FORMoYEH FINAL FORMkISOLATED FORMrZAI",
  "N FINAL FORMzQAF WITH ALEF MAKSURA FINAL FORMkISOLATED FORM+aHAH INITIAL FORMlSOLATED FORMrMEE",
  "M INITIAL FORMlSOLATED FORMnWITH HAH FINAL FORMkINITIAL FORMqMEEM FINAL FORMpYEH FINAL FORMyYE",
  "H FINAL FORMkISOLATED FORMyLA USED AS KORANIC STOP SIGN ISOLATED FORM+rUDDISA SIRRAHoRADI ALLA",
  "AHU ANHaAAcUMaAAdNNAsHIMAHU ALLAAHhM ALLAAHoSOUL ISOLATED FORMtEH WITH SUPERSCRIPT ALEF ISOLAT",
  "ED FORM+nSAD WITH ALEF MAKSURA FINAL FORMkISOLATED FORM+aHAH INITIAL FORMlSOLATED FORMnWITH HA",
  "H FINAL FORMkINITIAL FORMqYEH FINAL FORMxKHAH INITIAL FORMrMEEM INITIAL FORMlSOLATED FORMnWITH",
  " MEEM FINAL FORMkINITIAL FORM+bREH FINAL FORMkISOLATED FORMrYEH FINAL FORMkISOLATED FORMyLAAMU",
  "HU ALAYNAAnM ISOLATED FORMqLA ISOLATED FORMnUSED AS KORANIC STOP SIGN ISOLATED FORM+oLLAAHU AL",
  "AYHI WA-AALIHtHOU ALAYHE WASALLAMsU ALAYHI WAAALIHEE WA-SALLAM+kEEN WITH ALEF MAKSURA FINAL FO",
  "RMkISOLATED FORM+aHAH INITIAL FORMlSOLATED FORMnMEDIAL FORMlWITH JEEM INITIAL FORMzEH INITIAL ",
  "FORMmMEDIAL FORMpJEEM INITIAL FORMlSOLATED FORMnMEDIAL FORMlWITH ALEF MAKSURA FINAL FORMxHAH I",
  "NITIAL FORM+aKHAH INITIAL FORMlSOLATED FORMnMEDIAL FORMlWITH ALEF MAKSURA FINAL FORMxYEH FINAL",
  " FORMyMEEM INITIAL FORMlSOLATED FORMnMEDIAL FORMlWITH HAH FINAL FORMkINITIAL FORMqJEEM INITIAL",
  " FORMrMEEM FINAL FORMkINITIAL FORM+bREH FINAL FORMkISOLATED FORMrYEH FINAL FORMkISOLATED FORM+",
  "aHADDA WITH DAMMA ISOLATED FORMnMEDIAL FORMmTAN ISOLATED FORMwFATHA ISOLATED FORMnMEDIAL FORMr",
  "KASRA ISOLATED FORMnMEDIAL FORMmTAN ISOLATED FORMwSUPERSCRIPT ALEF ISOLATED FORM+oEEN WITH ALE",
  "F MAKSURA FINAL FORMkISOLATED FORM+aHAH FINAL FORMkINITIAL FORMlSOLATED FORMnMEDIAL FORMlWITH ",
  "MEEM FINAL FORMkINITIAL FORMrYEH FINAL FORMwEH INITIAL FORMmMEDIAL FORMpJEEM FINAL FORMkINITIA",
  "L FORMlSOLATED FORMnMEDIAL FORMlWITH YEH FINAL FORMyKHAH FINAL FORMkINITIAL FORMlSOLATED FORMn",
  "MEDIAL FORMqMEEM FINAL FORMkINITIAL FORMlSOLATED FORMnMEDIAL FORMlWITH KHAH FINAL FORMkINITIAL",
  " FORMrMEEM FINAL FORMkINITIAL FORM+bREH FINAL FORMkISOLATED FORMrYEH FINAL FORMkISOLATED FORM+",
  "bUBHAANAHU WA TAAALAAvTABAARAKA WA-TAAALAAsH WITH ALEF MAKSURA FINAL FORMkISOLATED FORM+aHAH I",
  "NITIAL FORMlSOLATED FORMrMEEM INITIAL FORMlSOLATED FORMnMEDIAL FORMlWITH HAH FINAL FORMkINITIA",
  "L FORMqMEEM INITIAL FORMrYEH FINAL FORMyYEH FINAL FORMkISOLATED FORMzEH WITH ALEF MAKSURA FINA",
  "L FORMkISOLATED FORM+aHAH INITIAL FORMlSOLATED FORMnWITH JEEM FINAL FORMkINITIAL FORMrMEEM INI",
  "TIAL FORMzEH INITIAL FORMmMEDIAL FORMpJEEM INITIAL FORMlSOLATED FORMnWITH ALEF MAKSURA FINAL F",
  "ORMxMEEM INITIAL FORMrYEH FINAL FORMyKHAH INITIAL FORMlSOLATED FORMnWITH ALEF MAKSURA FINAL FO",
  "RMxMEEM INITIAL FORMrYEH FINAL FORMyMEEM FINAL FORMkINITIAL FORMlSOLATED FORMnMEDIAL FORMlWITH",
  " ALEF MAKSURA FINAL FORMxHAH INITIAL FORMqJEEM INITIAL FORMrKHAH INITIAL FORMrYEH FINAL FORMyN",
  "OON FINAL FORMpREH FINAL FORMoYEH FINAL FORMkISOLATED FORMrZAIN FINAL FORMxHAL WITH SUPERSCRIP",
  "T ALEF ISOLATED FORM+mEH WITH ALEF MAKSURA FINAL FORMkISOLATED FORM+aHEH MEDIAL FORMpJEEM ISOL",
  "ATED FORMsMEEM FINAL FORMkINITIAL FORMlSOLATED FORMnMEDIAL FORMqNOON FINAL FORMpREH FINAL FORM",
  "oYEH FINAL FORMkISOLATED FORMrZAIN FINAL FORMzUIGHUR KIRGHIZ YEH WITH HAMZA ABOVE WITH ALEF MA",
  "KSURA FINAL FORMkINITIAL FORMlSOLATED FORM++pWASALLAM ISOLATED FORMwYEH WITH ALEF MAKSURA FINA",
  "L FORMkISOLATED FORM+aHAH INITIAL FORMlSOLATED FORMnWITH YEH FINAL FORMvMZA ABOVE WITH AE FINA",
  "L FORMkISOLATED FORMpLEF FINAL FORMkISOLATED FORMnMAKSURA FINAL FORMkISOLATED FORM+aE FINAL FO",
  "RMkINITIAL FORMlSOLATED FORMpHAH INITIAL FORMlSOLATED FORMqEH INITIAL FORMmMEDIAL FORMpJEEM IN",
  "ITIAL FORMlSOLATED FORMsKHAH INITIAL FORMrMEEM FINAL FORMkINITIAL FORMlSOLATED FORMnMEDIAL FOR",
  "MqNOON FINAL FORMpOE FINAL FORMkISOLATED FORMqREH FINAL FORMoU FINAL FORMkISOLATED FORMpWAW FI",
  "NAL FORMkISOLATED FORMrYEH FINAL FORMkISOLATED FORMqU FINAL FORMkISOLATED FORMqZAIN FINAL FORM",
  "+fEH INITIAL FORMmMEDIAL FORMpJEEM INITIAL FORMlSOLATED FORMnWITH YEH FINAL FORMyKHAH INITIAL ",
  "FORMlSOLATED FORMsMEEM FINAL FORMkINITIAL FORMlSOLATED FORMnMEDIAL FORMlWITH MEEM FINAL FORMkI",
  "NITIAL FORMrYEH FINAL FORMyNOON FINAL FORMpREH FINAL FORMoYEH FINAL FORMkISOLATED FORMrZAIN FI",
  "NAL FORMyZAH WITH MEEM INITIAL FORMlSOLATED FORMnMEDIAL FORM+iMADDA WAAJIBhH ABOVEkRK NOON GHU",
  "NNAlSIDEWAYS NOON GHUNNAxTHEMATICAL AINcLEFeBEHdDADbLcOTLESS BEHdFEHdNOONeQAFjUBLE-STRUCK AINd",
  "BEHdDADbLdFEHdGHAINfHAHdJEEMeKHAHeLAMdMEEMeNOONeQAFdREHdSADcEENdHEENfTAHcEHcHALcEHeWAWdYEHdZAH",
  "bINsFEHdGHAINfHAHdINITIAL AINdBEHdDADdFEHdGHAINfHAHcEHdJEEMeKAFcHAHeLAMdMEEMeNOONeQAFdSADcEENd",
  "HEENfTEHcHEHeYEHlJEEMeKAFcHAHeLAMcOOPED AINcLEFeBEHdDADbLdFEHdGHAINfHAHcEHdJEEMeKHAHeLAMdMEEMe",
  "NOONeQAFdREHdSADcEENdHEENfTAHcEHcHALcEHeWAWdYEHdZAHbINlMEEMeNOONeOPERATOR HAH WITH DALmMEEM WI",
  "TH HAH WITH TATWEEL+jQAFdREHdSADcEENdHEENeTRETCHED AINdBEHdDADcOTLESS BEHdFEHlFEHdGHAINfHAHcEH",
  "dJEEMeKAFcHAHeMEEMeNOONeQAFdSADcEENdHEENfTAHcEHcHEHeYEHdZAHnTAHbILED AINdDADcOTLESS NOONeQAFlG",
  "HAINfHAHdJEEMeKHAHeLAMdNOONeQAFdSADcEENdHEENfYEHjEHcHALcEHeWAWdYEHdZAHbINrNUMBER MARK ABOVEkSI",
  "GNlOPEN DAMMATANiFATHATANiKASRATANnPERCENT SIGNlIASTRE MARK ABOVErLACE OF SAJDAHoOETIC VERSE S",
  "IGNpUND MARK ABOVEqQUESTION MARKnRAISED ROUND DOToYcEVERSED DAMMAnIGHT ARROWHEAD ABOVEa WITH D",
  "OToBELOWuOUNDED HIGH STOP WITH FILLED CENTRE+kSEMICOLONiHADDAa ISOLATED FORMnMEDIAL FORMrIGN A",
  "LAYHE ASSALLAMpMISRAfRADI ALLAHOU ANHUpHMATULLAH ALAYHEsSAFHAdLLALLAHOU ALAYHE WASSALLAM+aMVAT",
  "eNAHeINDHI AMPERSANDjPOSTPOSITION MENxTAKHALLUSnMALL DAMMAfFARSI YEHhTHAfHIGH AINdDOTLESS HEAD",
  " OF KHAHuFARSI YEHiOOTNOTE MARKERpJEEMeLAM ALEFhIGATURE ALEF WITH LAM WITH YEHwQAF WITH LAM WI",
  "TH ALEF MAKSURA+eSAD WITH LAM WITH ALEF MAKSURA+nMADDAeEEM INITIAL FORMlSOLATED FORMsNOONa WIT",
  "H KASRApQAFdROUNDED ZEROmSADcEENdIGN SAFHAkTAHcHREE DOTSkUPRIGHT RECTANGULAR ZEROyWAWcORD AL-J",
  "UZfN-NISFgR-RUBfS-SAJDAhTH-THALATHAmQIFdSAHbKTAfWAQFAkYEHa BARREE WITH TWO DOTS BELOW+eZAHbINj",
  "KASRAfLOW MEEMeNOON WITH KASRApSEENeWAWcORD IMAALAfSHMAAMhTASHEELqWAWdYEHiTART OF RUB EL HIZBt",
  "UBSCRIPT ALEFmKUNa BELOWfISOLATED FORMnMEDIAL FORMpPERSCRIPT ALEF MOKHASSASzYMBOL DOT ABOVEfBE",
  "LOWhUBLE VERTICAL BAR BELOWzFOUR DOTS ABOVEfBELOWpRINGeSMALL TAH ABOVEfBELOWpTHREE DOTS ABOVEf",
  "BELOWfPOINTING DOWNWARDS ABOVEfBELOW+iWO DOTS ABOVEfBELOWfVERTICALLY ABOVEfBELOWzWASLA ABOVEsT",
  "AIL FRAGMENTlTWEELa WITH FATHATAN ABOVEoOVERSTRUCK HAMZAfWAWoTWO DOTS BELOW+aHOUSANDS SEPARATO",
  "RsONE LOOP ABOVEfBELOWkONE DOT ABOVEfBELOWnTWO DOTS ABOVEfBELOWsRIPLE DOT PUNCTUATION MARK+aUR",
  "NED DAMMA BELOWsVERTICAL TAILmOWEL SIGN DOT BELOWjINVERTED SMALL V ABOVEwSMALL V ABOVEyWAVY HA",
  "MZA BELOWqZWARAKAYj-INDIC CUBE ROOTjDIGIT EIGHTfFIVEdOUReNINEeONEdSEVENeIXdTHREEeWOdZEROkFOURT",
  "H ROOTlPER MILLE SIGNkTEN THOUSAND SIGN+gCbIESdMENIAN ABBREVIATION MARKqPOSTROPHEkCAPITAL LETT",
  "ER AYBdBENdCAbHAbEHdOcDAcECHcHbTcFEHdGHADdIMdHOcINIdJAbHEHeKEHbNdLIWNeMENdNOWdOHcPEHcIWReRAbEH",
  "dSEHcHAdTIWNdOcVEWcOcXEHdYIaWNeZAbHErOMMAfDRAM SIGNjEMPHASIS MARKmXCLAMATION MARKqFULL STOPjHY",
  "PHENgMODIFIER LETTER LEFT HALF RING+eQUESTION MARKnSMALL LETTER AYBdBENdCAbHAbEHdOcDAcECHcHbTc",
  "FEHdGHADdIMdHOcINIdJAbHEHeKEHbNdLIWNeMENdNOWdOHcPEHcIWReRAbEHdSEHcHAdTIWNdObURNED AYBkVEWcOcXE",
  "HdYIa WITH STROKEmWNeZAbHEjIGATURE ECH YIWNiMEN ECHdINIdNOWdXEHhVEW NOW+dROW POINTING DOWNWARD",
  "S THEN CURVING LEFTWARDSjRIGHTWARDS+hRIGHTWARDS THEN CURVING DOWNWARDSjSOUTH WESTkUPWARDS+fUPW",
  "ARDS THEN NORTH WEST+hHEAD-SHAPED POINTERwTICULATED LORRYnST PALETTEnSCENDING NODElIA SYMBOLkS",
  "ERTIONhTERISKa OPERATORkMfONISHED FACEmRAEAdONOMICAL SYMBOL FOR URANUS+cYMPTOTICALLY EQUAL TOw",
  "THLETIC SHOElOM SYMBOLkUBERGINEhSTRAL SIGNkTO RICKSHAWjMATED TELLER MACHINEtOBILEjVESTAN ABBRE",
  "VIATION MARKrLETTER AaAaNbOcEaEcNbOcBEbHEdCEcDEbHEdEaEcFEcGEbGEcHEdHEbMEdIaIcJEcKEcLEcMEcNEbGE",
  "bVEcYEdNEcYEdOaOcPEcREcSEbHEbYEdSHEeTEbHEcTEdUaUcVEcXEbVEcYEdYEbYEdZEbHEqOCADOgXEdBABYa ANGELf",
  "BOTTLEgCHICKfSYMBOLjCK OF ENVELOPElWITH LEFTWARDS ARROW ABOVE+b-TILTED SHADOWED WHITE RIGHTWAR",
  "DS ARROW+nSLANTED SOUTH ARROW WITH HOOKED TAILjRIZONTAL TAIL+nPACEgONcTRIAN CAMELmDGERdMINTON ",
  "RACQUET AND SHUTTLECOCK+fGELcGAGE CLAIMkUETTE BREADmLINESE ADEG ADEGjCARIK PAMUNGKAHhRERENhSIK",
  "IkDIGIT EIGHTfFIVEdOUReNINEeONEdSEVENeIXdTHREEeWOdZEROkLETTER AIKARAfKARAa TEDUNGlRCHAIC JNYAl",
  "SYURA SASAKmBAa KEMBANGkCAa LACAhDAa MADUdURDA ALPAPRANAjMAHAPRANAsEF SASAKhKARAfGAa GORAhHAcI",
  "KARAa TEDUNGmJAa JERAhKAa MAHAPRANAkF SASAKiHOT SASAKkLAa LENGAa TEDUNGpMAcNAa RAMBATiGAcYAdOK",
  "ARAa TEDUNGmPAa KAPALiRAa REPAa TEDUNGoSAa SAGAcPAhTAa LATIKfMURDA MAHAPRANApTAWAgZIR SASAKkUK",
  "ARAa TEDUNGmVE SASAKiWAcYAcZAL SASAKqMUSICAL SYMBOL COMBINING BENDEfENDEPfGONGeJEGOGANhKEMPLIa",
  " WITH JEGOGANpULa WITH JEGOGANtTEGEHpDAENGdINGdNGa GEDEeSURANGkENGcUNGeINGdONGdUNGeLEFT-HAND C",
  "LOSED PLAKcUKlOPEN PANGdINGdUNGtRIGHT-HAND CLOSED TAKcUKkOPEN DAGcUG+iPAMADAa LANTANGlENENGgNT",
  "Ia LANTANGnSIGN BISAHfCECEKfREREKANhSURANGgULU CANDRAgRICEMoVOWEL SIGN LA LENGAa TEDUNGpPEPETa",
  " TEDUNGmRA REPAa TEDUNGoSUKUa ILUTjTALINGa REPAa TEDUNGlTEDUNGmEDUNGgULUa SARItWINDUlL OF YARN",
  "iET SHOESiOONa-SPOKED ASTERISKsT BOLD SCRIPT XlXa WITH BALLOTfOLD CHECKfSCRIPT XnCHECKfLIGHT X",
  "hSCRIPT XiXkSCRIPT XiXgMUM COLONdMBINING MARK KOQNDONhTUKWENTISvMAfFULL STOPjLETTER AbEEcFAAMA",
  "EfEEcOMcUcIbKAbENbTbUXdIbOaGHOMeVUUePAcUbYEEeLAbEEEEeIbOQcUcMaAbBAAcENdEEEEdNcIbObUcNAbDAAdGAb",
  "GAcKWAENgIbJAEMdEEcUAEeSHAdTEEcUUdUaAEdYIdObPAbEEbUXdHASE-A FIRIeGBIEE FONiHEUAEGHEUAEgRAEjKAF",
  "AcQcETbUKEUTNDAjPOQdUOQeLAPAQeET KUTgOMMAEfUaAEPfMAEKEUPeMaBGBIEEgKPENeVEUXfNYIdSIdNSUAEfP PIE",
  "ETiBANYIdQdEUNJOMNDEUQlGBASAfON NGGEUAETkOMEUTdPUQgVEUAENGAMkNAA MFONgQcDA LEERAEWAjANGGEUAETl",
  "ENcGANGUeGENdKUE MFONfNZEUMjIKAdJAMdKAARAEfINDIfSHAbIEEfTAPa MFAAeNTAAhOQPENgYETcIaT MONGKEUAE",
  "QoZA MFONgUN MEUTjPA LEERAEWAjAMbRAEeMSHAEfSHAEfETcON MFON PIPAEMBAcGBIEEqPA NJI PIPAEMBAcGBIE",
  "EvUPdROMdSEUNYAMgHINDA PA NJIkRAEeOQ NSHUT YUMmUENSHUEThMdISAdONJAMeQbTcUUdTEUAENdTEUWENiITA M",
  "FONiU MAEMBAhAEPfU YUQ NAEiNKNOWNhVEEfB FEEbUXeGHEUGHENbUAEMlKAMcEUAEMdPUQdYEUXgIEEMdQdLAANAEe",
  "M NSHUT NYAMnETcOM NTEUMjMAa NJEUAENAgUQAhBA MAELEEhARAEfEURIeIT MBAAKETkUOQeEUQbT NGGEETkFIYA",
  "QeON TEUAEQkONTIEENiNDU NJAAhGGAAMdEU MBUgUOQa LARGEkKINDI MVOPkOMdSENcHUETfTIEE SHEUOQlYAEMAE",
  "fI NTEUMjPARUMeEESHIfITcUNGAAMhSAKEUAEgET TUfHET NJAQgUAEQTUiIEEdUEdTAAMdU MAEMGBIEEjNSIEEiVEU",
  "MeWUAETfYAFU LEERAEWAmEURAEiC BUNGeFUEdGBAYIeHAPbRAEgKAAcEN FATIGUEhLAWfTbUKAQdMbSEUXdHEUAEPjP",
  "ARAQfUOP NKAARAEkTdLAMbPcIQcUcMA KEUAERIhNSIEEgEMBAdSIeBAA CABBAGE-TREEmPICKETiNYIeEEKEETfRAEd",
  "UMbXdIaRIEENfTcUAEMdEdGBASAQgIEEdUAEeNANSANAQgQcDAMbPcEUAEREEfTdIDAdOMBUfGAQcGENcUaAEN NYAMiEE",
  "TdMbONeKAQcUE MAEMBAkOMdJAEMcMcEEEEdUXdUEQeSAbEUAENfHAQdOMcUNbOT NGOMjTAAcENbUNGBAgU MBIThYIR ",
  "MKPARAQ MEUNqZAbEUMfPENcINbRIEENhRUcSETFONeUXdHIQcUEQeUAETfTAASHAEgETbUTEUXgITA YUEfUAEPhVEUAE",
  "PENfXeWANGKUOQhUPdYAAcEUQdU MUOMAEhMbWOQhD FAAcEUFEUAETjGHAAcEUAEgKETbUAETMEUNhMbOT MBUAEiPdUa",
  "NbOMcQcWAETeYEEeLEEEEdTbUAEPdMdIEEdOQcUMdMaAENJETfLEERIgBAAa SEVENiUOdEEEEdUNbTdFEUAEcTdIEEdOa",
  "NdGBEUNdIEEdOFUMgONIdUbVOPeNDAMcEEbUXdONdGGAAMaAEePcEUXdUOMdWAENfKAPcEUAEQdRIeIEEdUNcYEEfIbJAP",
  "cEUAEMdTdIaEEdUEQeSHEEcUTdIEEPbTeUMdTEEbUMdUUdUbYAMcETcIbUEePAPcEEbUTAEfIPcUQbUTeRAEMdEN MUCHe",
  "OLDgIIdSAPbQcEUAEQfHEEbUAEcXdIIcOQcUcOTcUAEcEbUdTAEcEEEEdUAENdNbTdIbOQcUaOTeWAPcUAENfYAEMMAEgE",
  "NcUOMbPcWOQhE AbFAaQcEEcOMcU CALLeIbREMEDYhEaTeGBETbUXeHAAMAEfETbUAEcNbXdOMeIbKETbUAEcXdIbObPE",
  "UXeUETcOPcTdLAAMcPbQcEUAEMfOMbONbTcQcUcMAaEaMcPbQcBEEbUMeENcFEUQeGBAbENeIaEEdONcUAEdVIdNAaEcDA",
  "A MY HOUSEiSOFTNESSkPcIAQcQcUNdGAbEUREUTgGEEEEdUAEaTfUAESHAE NYAMlPbRAEfKAaAMIeEUAEMdXdUMbPdOP",
  "bQcUAEaTfJAEMLIfEEa EPOCHhUXeKOMdSHIEEdUEbOPfTAPcUMdYI BETWEENhCLEAVERkZAQcUQeObPA PEOPLEfLURA",
  "LhAaMdEEMcUTbXdIaEEQcTdOaONdUaAEbQcEbMdRAEbQcEUXdIMGBAgSAAcEEbTcHEUAEQfIQcOaQdOMcUAENfTAAaQcEN",
  " NTEUMiMbQcENbUaAEQfOOaNcQcUAEcMaAEfVEEbUAEeOMdWEUXdUEbOdYAPcEUAEaTdMbXdIEEcTcOQ COVERfSWIMMIN",
  "GlUAENdEQcNbQfF EEcFOMdKAbENbTcObPAcUbYEEeLAbIbOQdMaAbBAAcENdEEEEeOcNDAAdGGAcKWAENgIbJAEMdUAEe",
  "SHAdTEEdUaAEdYIdPEEbUXdUAEeREEbNbUXdIEEcIcUcSAMBAeEUXdHIIcObUcIbUUdTAAbEcETdUbVUEQeWAbUEdYAbOQ",
  "kIbUAEcEdRAEcEEbNbUXdIEEcIcUcSAMBAeEUXdHEUXdIIcObUcIbUUdTAAbEcENbTcIcUbWAbUEdYAbOQcUQkNJAEMLIh",
  "QUESTION MARKnSEMICOLONnNANAdJOcKaNOTE WITH DOLLAR SIGNlEURO SIGNjPOUND SIGNkYEN SIGNuR CHARTf",
  "OF SOAPiBER POLEjSEBALLfKETaBALL AND HOOPqSA VAH COMBINING HIGH TONEf-LOW TONEnLOW TONEf-MID T",
  "ONEmMID TONEsFULL STOPjLETTER AbBAcCEcDHIIdOcEaEbNNIeFAcGAHcBUdHWAHeIbJOcKAbPAHeMBEdOaOcPAcSEc",
  "TOcUaWUdVUcWAaDDAfYEINdIEdZOrTaAK CONSONANT SIGN HbNGrLETTER AbBAcCAcDAcGAcHAcIbJAcKARO BAhLAc",
  "MAaNDAILING HAcNAcSAmBAdNAbDAcGAcORTHERN TAkYAdPAaKPAK WAjRAcSAbIMALUNGUN AbGAcHAcLAcMAcPAcRAc",
  "SAcWAcYAmOUTHERN TAlUbWAcYAjPANGOLATfONGONANkSIGN TOMPIjYMBOL BINDU JUDULfNA METEKiPANGOLAThIN",
  "ARBORASxVOWEL SIGN EaEcIbKARO IbOgObPAKPAK EiUa FOR SIMALUNGUN SA+hHaTUBeTERYgEACH WITH UMBREL",
  "LAqMED ASCENDING MUSICAL NOTESxDESCENDING MUSICAL NOTESyEIGHTH NOTESmSIXTEENTH NOTEStNScR FACE",
  "fDED PERSONlTING HEARTkVEReCAUSEfDbER MUGfTLEeLaLa PEPPERgSYMBOLgWITH CANCELLATION STROKEzHOP ",
  "BELLkNGALI ABBREVIATION SIGNqNJIdU LENGTH MARKoCURRENCY DENOMINATOR SIXTEENtNUMERATOR FOUReONE",
  "a LESS THAN THE DENOMINATOR+dTHREEeWOwDIGIT EIGHTfFIVEdOUReNINEeONEdSEVENeIXdTHREEeWOdZEROkGAN",
  "DA MARKkISSHARgLETTER AaAbIbUcBAbHAdCAbHAdDAbDAbHAdHAdEbGAbHAdHAcIaIcJAbHAdKAbHAaNDA TAjLAcMAc",
  "NAbGAcNAcYAdObPAbHAdRAa WITH LOWER DIAGONALoMIDDLE DIAGONALwHAcRAdSAbHAcSAdTAbHAcTAbHAeUaUcVED",
  "IC ANUSVARAnOCALIC LaLcRaRkYAbYAkRUPEE MARKeSIGNkSANDHI MARKkIGN ANUSVARAhVAGRAHAiCANDRABINDUl",
  "NUKTAfVIRAMAeSARGAmVOWEL SIGN AAbIbUcEbIaIcObUaUcVOCALIC LaLcRaR+aT ARROW POINTING DOWNWARDS T",
  "HEN NORTH EAST+pO BOXgZENE RINGa WITH CIRCLEwT SYMBOLhWEENfVERAGE BOXlHAIKSUKI DANDAeIGIT EIGH",
  "TfFIVEdOUReNINEeONEdSEVENeIXdTHREEeWOdZEROjOUBLE DANDAmGAP FILLER-1b2mHUNDREDS UNIT MARKsLETTE",
  "R AaAbIbUcBAbHAdCAbHAdDAbDAbHAdHAdEbGAbHAdHAcIaIcJAbHAdKAbHAdLAcMAcNAbGAcNAcYAdObPAbHAdRAcSAbH",
  "AcSAdTAbHAcTAbHAeUaUcVAbOCALIC LbRaRkYAjNUMBER EIGHTaYgFIFTYdVEdORTYdUReNINEaTYgONEdSEVENaTYgI",
  "XaTYfTENcHIRTYeREEeWENTYeOkSIGN ANUSVARAhVAGRAHAiCANDRABINDUlVIRAMAeSARGAmVOWEL SIGN AAbIbUcEb",
  "IaIcObUaUcVOCALIC LbRaRvWORD SEPARATORxICYCLEbISThG REVERSE SOLIDUSpSOLIDUSjKINIeLLED CAPgIARD",
  "ShOHAZARD SIGNmRDbTHDAY CAKElSONdTCOIN SIGNjING LIPjLACK BOWTIEgCENTRE WHITE STARqHESS BISHOPa",
  " ROTATED NINETY DEGREESoTWO HUNDRED SEVENTY DEGREES+qEQUIHOPPERa ROTATED NINETY DEGREES+hKINGa",
  " ROTATED NINETY DEGREESoTWO HUNDRED SEVENTY DEGREES+nNIGHTa ROTATED FORTY-FIVE DEGREESsNINETY ",
  "DEGREESoONE HUNDRED THIRTY-FIVE DEGREES+fTHREE HUNDRED FIFTEEN DEGREES+cWO HUNDRED SEVENTY DEG",
  "REESpTWENTY-FIVE DEGREES+o-BISHOPgQUEENfROOKlPAWNa ROTATED NINETY DEGREESoTWO HUNDRED SEVENTY ",
  "DEGREES+oQUEENa ROTATED NINETY DEGREESoTWO HUNDRED SEVENTY DEGREES+pROOKa ROTATED NINETY DEGRE",
  "ESoTWO HUNDRED SEVENTY DEGREES+oTURNED BISHOPgKINGdNIGHTgPAWNeQUEENfROOKqIRCLEa FOR RECORDkWIT",
  "H DOWN ARROWkTWO WHITE DOTSoWHITE DOT RIGHT+aLUB SUITiROSS ON SHIELDoURVED DOWNWARDS AND LEFTW",
  "ARDS ARROWpRIGHTWARDS ARROW+eLEFTWARDS AND DOWNWARDS ARROWpUPWARDS ARROW+bRIGHTWARDS AND DOWNW",
  "ARDS ARROWpUPWARDS ARROW+cUPWARDS AND LEFTWARDS ARROWpRIGHTWARDS ARROW+jDIAMONDa CENTREDhMINUS",
  " WHITE XnON CROSSiSUITeWITH DOWN ARROWwOWN POINTING BACKHAND INDEXy-POINTING DOUBLE TRIANGLEpI",
  "SOSCELES RIGHT TRIANGLEySMALL TRIANGLEoTRIANGLEsWARDS EQUILATERAL ARROWHEAD+eRAUGHTS KINGeMANk",
  "OPLEThFLAGcORETTEhOLDEReUR POINTED STARrHARD SHELL FLOPPY DISKvEARTa SUITiXAGONgORIZONTAL ELLI",
  "PSEqURGLASSjLARGE CIRCLEgSQUARElEFT LANE MERGEkPOINTING BACKHAND INDEXoINDEXp-POINTING DOUBLE ",
  "TRIANGLEa WITH VERTICAL BAR+hISOSCELES RIGHT TRIANGLEyPOINTERhSMALL TRIANGLEoTRIANGLEsWARDS BU",
  "LLETgEQUILATERAL ARROWHEAD+eOWER LEFT TRIANGLEnRIGHT TRIANGLEsZENGEhMEDIUM DIAMONDgOWN-POINTIN",
  "G TRIANGLEa CENTRED+eLEFT-POINTING TRIANGLEa CENTRED+dOZENGEhRIGHT-POINTING TRIANGLEa CENTRED+",
  "fSMALL DIAMONDhLOZENGEhSQUARElQUAREgUP-POINTING TRIANGLEa CENTRED+iOON LILITHlNIBdOCTAGONhPARA",
  "LLELOGRAMmENNANTeTAGONhUSHPINhQUESTION MARK ORNAMENTwRECTANGLEiIGHT POINTING BACKHAND INDEXoIN",
  "DEXp-POINTING DOUBLE TRIANGLEa WITH VERTICAL BAR+hISOSCELES RIGHT TRIANGLEyPENTAGONhOINTERhSMA",
  "LL TRIANGLEoTRIANGLEa WITH DOUBLE VERTICAL BAR+rWARDS ARROWaHEADjBULLETgEQUILATERAL ARROWHEAD+",
  "fOSETTEhSAFETY SCISSORSoCISSORShHOGI PIECEkKULL AND CROSSBONEStLIGHTLY SMALL CIRCLEgSQUAREuMAL",
  "L DIAMONDhLOZENGEhSQUAREfTARiILING FACElNOWMANgPADE SUITjQUAREa BUTTONgCENTREDhFOR STOPoTARdUN",
  " WITH RAYSnTELEPHONEiINY DIAMONDhLOZENGEhSQUAREkOUCHTONE TELEPHONEsRUCKeWO-WAY LEFT WAY TRAFFI",
  "CyUNIVERSAL RECYCLING SYMBOLzP POINTING BACKHAND INDEXy-POINTING DOUBLE TRIANGLEpISOSCELES RIG",
  "HT TRIANGLEySMALL TRIANGLEoTRIANGLEsPER LEFT TRIANGLEnRIGHT TRIANGLEsWARDS EQUILATERAL ARROWHE",
  "AD+dVERTICAL ELLIPSEhRECTANGLEpY SMALL DIAMONDhLOZENGEhSQUAREs-FEATHERED NORTH EAST ARROWqRIGH",
  "TWARDS ARROWqSOUTH EAST ARROW+aLETTER CAPITAL CbHbIbRbZtNK SYMBOLkOCK SEXTANT-1a2a3a4a5b6c5a6c",
  "6c4a5a6c6c5a6c6c3a4a5a6c6c56c6c4a5a6c6c5a6c6c2a3a4a5a6c6c5a6c6c4a5a6d5a6c6c3a4a5a6c6c5a6c6c4a5",
  "a6c6c5a6c6mSSOMeWFISHgUE BOOKeHEARTgBERRIESkOARcLD EIGHT SPOKED ASTERISKvFIVE SPOKED ASTERISKu",
  "GREEK CROSSlSALTIREgIX SPOKED ASTERISKtWHITE CIRCLEgSQUAREpMaBcNEcOKaMARKa TABSjScMERANGhPOMOF",
  "O FINAL LETTER GbHbKbPbToLETTER AaHbIaNNdMbNaGbNcUaNNeBaUcCaHcDbEaEbHbIbNaGbNcRcFbGaHbNbUbWcHb",
  "IaHbMbNNaNdRbUcJaIcKaWcLaHcMbNaGaGcNcOa WITH DOT ABOVEpEbMbNGbNcObUcPbQbRbSaHcTbUaNNdVbXbZaHbI",
  "bYqTTLE WITH POPPING CORKuOM ARC ANTICLOCKWISE ARROWxCURLY BRACKETnHALF BLACK CIRCLEmINTEGRALi",
  "LEFT PARENTHESISqRIGHT PARENTHESISwLEFT CORNERfROPeHALF BRACKETrPARENTHESISlRIGHT CORNERfROPeH",
  "ALF BRACKETsSQUARE BRACKETa OVER TOP SQUARE BRACKET+mTORTOISE SHELL BRACKET+bUQUETa OF FLOWERS",
  "qW AND ARROWkL OF HYGIEIAkWITH SPOONlINGeTIEa WITH LEFT HALF BLACKpRIGHT HALF BLACK+aX DRAWING",
  "S DOUBLE DOWN AND HORIZONTALkLEFTeRIGHToHORIZONTALkUP AND HORIZONTALkLEFTeRIGHTmVERTICALa AND ",
  "HORIZONTALkLEFTeRIGHTxWN DOUBLE AND HORIZONTAL SINGLErLEFT SINGLElRIGHT SINGLExHEAVY AND HORIZ",
  "ONTAL LIGHTqLEFT LIGHTfUP LIGHTnRIGHT LIGHTfUP LIGHToUP HORIZONTAL LIGHT+dLIGHT AND HORIZONTAL",
  " HEAVYqLEFT HEAVYfUP HEAVYnRIGHT HEAVYfUP HEAVYoUP HORIZONTAL HEAVY+dSINGLE AND HORIZONTAL DOU",
  "BLErLEFT DOUBLElRIGHT DOUBLE+cHEAVY DOUBLE DASH HORIZONTALkVERTICALsWNa AND HORIZONTALkLEFTeRI",
  "GHToHORIZONTALkLEFTa AND LIGHT RIGHTuQUADRUPLE DASH HORIZONTALkVERTICALxRIGHTfTRIPLE DASH HORI",
  "ZONTALkVERTICALuUPa AND HORIZONTALkLEFTdIGHT DOWNkRIGHTmVERTICALa AND HORIZONTALkLEFTeRIGHTyLE",
  "FT DOWN HEAVY AND RIGHT UP LIGHT+dHEAVY AND RIGHT DOWN LIGHTkUP LIGHTiVERTICAL LIGHT+eLIGHT AN",
  "D RIGHT DOWN HEAVYkUP HEAVYiVERTICAL HEAVY+eUP HEAVY AND RIGHT DOWN LIGHT+hIGHT ARC DOWN AND L",
  "EFTeRIGHToUP AND LEFTeRIGHTqDIAGONAL CROSSfDIAMONDhMIDDLE LEFT TO LOWER CENTREa TO MIDDLE RIGH",
  "T+cUPPER CENTRE TO MIDDLE RIGHTa TO LOWER CENTRE++aRIGHT TO LOWER CENTREmUPPER CENTRE TO MIDDL",
  "E LEFT TO LOWER CENTRE++hUPPER CENTRE TO MIDDLE LEFTa AND MIDDLE RIGHT TO LOWER CENTRE+gTO LOW",
  "ER CENTREa TO MIDDLE RIGHT+kRIGHTa AND MIDDLE LEFT TO LOWER CENTRE+fTO LOWER CENTREa TO MIDDLE",
  " LEFT++bLEFT TO LOWER RIGHTtRIGHT TO LOWER LEFT+hOUBLE DASH HORIZONTALkVERTICALsWNa AND HORIZO",
  "NTALkLEFTeRIGHToHORIZONTALa WITH VERTICAL STROKE+fLEFTa AND HEAVY RIGHTuQUADRUPLE DASH HORIZON",
  "TALkVERTICALxRIGHTfTRIPLE DASH HORIZONTALkVERTICALuUPa AND HEAVY DOWNjORIZONTALkLEFTeRIGHTmVER",
  "TICALa AND HORIZONTALkLEFTeRIGHTyRIGHT DOWN HEAVY AND LEFT UP LIGHT+cHEAVY AND LEFT DOWN LIGHT",
  "kUP LIGHTiVERTICAL LIGHT+dLIGHT AND LEFT DOWN HEAVYkUP HEAVYiVERTICAL HEAVY+dUP HEAVY AND LEFT",
  " DOWN LIGHT+iUP DOUBLE AND HORIZONTAL SINGLErLEFT SINGLElRIGHT SINGLExHEAVY AND DOWN HORIZONTA",
  "L LIGHTvHORIZONTAL LIGHTqLEFT DOWN LIGHTkLIGHTkRIGHT DOWN LIGHTkLIGHTvLIGHT AND DOWN HORIZONTA",
  "L HEAVYvHORIZONTAL HEAVYqLEFT DOWN HEAVYkHEAVYkRIGHT DOWN HEAVYkHEAVYvSINGLE AND HORIZONTAL DO",
  "UBLErLEFT DOUBLElRIGHT DOUBLE+aVERTICAL DOUBLE AND HORIZONTAL SINGLErLEFT SINGLElRIGHT SINGLEx",
  "HEAVY AND HORIZONTAL LIGHTqLEFT LIGHTkRIGHT LIGHTvLIGHT AND HORIZONTAL HEAVYqLEFT HEAVYkRIGHT ",
  "HEAVYvSINGLE AND HORIZONTAL DOUBLErLEFT DOUBLElRIGHT DOUBLE+qING GLOVEkYaS SYMBOLkPHcRAHMI DAN",
  "DAeIGIT EIGHTfFIVEdOUReNINEeONEdSEVENeIXdTHREEeWOdZEROjOUBLE DANDAmLETTER AaAbIbUcBAbHAdCAbHAd",
  "DAbDAbHAdHAdEbGAbHAdHAcIaIcJAbHAdKAbHAdLAbLAdMAcNAbGAcNAcYAdOaLD TAMIL LLAbLAeNNNAeRRAdSHORT E",
  "bOrPAbHAdRAcSAbHAcSAdTAbHAcTAbHAeUaUcVAbOCALIC LaLcRaRkYAjNUMBER EIGHTaYgFIFTYdVEdORTYdUReJOIN",
  "ERgNINEaTYgONEa HUNDREDhTHOUSANDmSEVENaTYgIXaTYfTENcHIRTYeREEeWENTYeOkPUNCTUATION CRESCENT BAR",
  "mDOTbUBLE DOTkLINEdOTUSrSIGN ANUSVARAiCANDRABINDUlJIHVAMULIYAlOLD TAMIL VIRAMAqUPADHMANIYAlVIS",
  "ARGAmVIRAMAfOWEL SIGN AAbIbUcBHATTIPROLU AAoEbIaIcOaLD TAMIL SHORT EbOrUaUcVOCALIC LaLcRaRzILL",
  "E PATTERN BLANKfDOTS-1a2a3a4a5a6a7a8c8c7a8c8c6a7a8c8c7a8c8c5a6a7a8c8c7a8c8c6a7a8c8c7a8c8c4a5a6",
  "a7a8c8c7a8c8c6a7a8c8c7a8c8c5a6a7a8c8c7a8c8c6a7a8c8c7a8c8c3a4a5a6a7a8c8c7a8c8c6a7a8c8c7a8c8c5a6",
  "a7a8c8c7a8c8c6a7a8c8c7a8c8c4a5a6a7a8c8c7a8c8c6a7a8c8c7a8c8c5a6a7a8c8c7a8c8c6a7a8c8c7a8c8c2a3a4",
  "a5a6a7a8c8c7a8c8c6a7a8c8c7a8c8c5a6a7a8c8c7a8c8c6a7a8c8c7a8c8c4a5a6a7a8c8c7a8c8c6a7a8c8c7a8c8c5",
  "a6a7a8c8c7a8c8c6a7a8c8c7a8c8c3a4a5a6a7a8c8c7a8c8c6a7a8c8c7a8c8c5a6a7a8c8c7a8c8c6a7a8c8c7a8c8c4",
  "a5a6a7a8c8c7a8c8c6a7a8c8c7a8c8c5a6a7a8c8c7a8c8c6a7a8c8c7a8c8sNdEADbK PERMITTED HEREqST-FEEDING",
  "lVEdICKcDE WITH VEILlGE AT NIGHTmEFCASEeSeOCCOLIfKEN BARdCIRCLE WITH NORTHWEST ARROW+bHEARTjOM",
  "cWN HEARTkSbUBBLE TEAeSfCKETeGaINESE END OF SECTIONoLETTER AbBAcCAcDAcGAcHAcJAcKAcLAcMAbPAdNAb",
  "GAbKAdRAcYAbCAePAcRAcSAcTAcVAcYAjPALLAWAhVOWEL SIGN AEcEbIbObUtHID LETTER AbBAcDAcGAcHAcIbKAcL",
  "AcMAcNAbGAdPAcRAcSAcTAcUbWAcYAjVOWEL SIGN IbUqILDING CONSTRUCTIONtLLETa OPERATORlHORNa WITH SO",
  "UND WAVESvSEYEgRRITOfSa STOPfT IN SILHOUETTEoS IN SILHOUETTErTTERaFLYiYTE ORDER MARKnZANTINE M",
  "USICAL SYMBOL AGOGI ARGIbOTERIiGORGIbOTERIjMESIcTRIAgPOLI ARGIeGORGIpNATRICHISMAkTIKENOKYLISMA",
  "hMAjPESO EKFONITIKONkXO NEOlLIcODERMA ARCHAIONiNEOjSTROFOI SYNDESMOS NEOnTELOUS ICHIMATOSsSa D",
  "IPLIfNEOlTHEMAhRGONbSYNTHETONlKTIKO DIcGAcKEcNIcPAcVOUdZOkCHAMILIbONgOREVMA ARCHAIONiNEOkROA K",
  "LITONgSPATHIgZYGOSlDASEIAfIARGONeSTOLI APLI MEGALIfIKRIkDIPLIfTHESEOSoESIS APLI DYO DODEKATArD",
  "IGRAMMOS EX DODEKATAvMONOGRAMMOS TESSERA DODEKATA+cTETARTIMORIONmRIGRAMMOS OKTO DODEKATAvTIMOR",
  "IONqFTOGGOS OUkGORGONa PARESTIGMENON ARISTERA ANOdKATOnDEXIAzRAMMA GGjPLIa ARCHAIONnYOdEKSTREP",
  "TONjLAFRONgNARXIS KAI FTHORA VOUuDOFONONiPEGERMAhTERON ARGOSYNTHETONnPARAKALESMArXO EKFONITIKO",
  "NpFANEROSIS DIFONIASiMONOFONIASkTETRAFONIASuHTORA SKLIRON CHROMA VASIS+aTHORA ARCHAIONa DEYTER",
  "OU ICHOUxDIATONIKI DIcKEcNANAdI ANOdKATOhPAcZOmENARMONIOS ANTIFONIAuI YFESIS TETARTIMORIONwMAL",
  "AKON CHROMA DIFONIASiMONOFONIASzNAOS ICHOSjENANOgSKLIRON CHROMA SYNAFIgVASISmDIATONON DI+aGENI",
  "KI DIESISgYFESISmORGON ARCHAIONiNEO ANOdKATOiPARESTIGMENON ARISTERAiDEXIAvSYNTHETONlTHMIKON N ",
  "APLOUNgDIPLOUNtRONTHISMATAmICHADINgMIDIARGONhFONONeTHORAbONjSAKIA TELOUS ICHIMATOSvON ARCHAION",
  "iNEOiKATAVA TROMIKONjSMAgHISTIhENTIMA ARCHAIONiNEO ANOdKATOeMESOjTAa ARCHAIONiNEO ANOdKATOeMES",
  "OrLASMAa ANOdKATOkONTEVMAa ALLOlRONISfUFISMAhRATIMA ALLOdRCHAIONiNEOeTAdOKOUFISMAiYPORROONnEMA",
  "STIhYLISMAhLEIMMA DYO CHRONONlENOS CHRONOUmIMISEOS CHRONOUpTESSARON CHRONONpRION CHRONONsMOIeY",
  "GISMAhMARTYRIA ALLI DEYTEROS ICHOSoPROTOS ICHOSrDEYTEROS ICHOSoLEGETOS ICHOSnPLAGIOS ICHOSfTET",
  "ARTOS ICHOSvROTOS ICHOShVARYS ICHOSqTETARTOS ICHOSfLEGETOS ICHOSvRIFONIASgTOS ICHOSmVARYS ICHO",
  "StIKRON ISONlNANAeOLIGON ARCHAIONiNEOjMALONfXEIA DIPLIfEKFONITIKONlNEOeI ARCHAIONoYRANISMA ARC",
  "HAIONiNEOnPARAKALESMA ARCHAIONiNEOkLITIKIa ARCHAIONiNEOmICHONhELASTONa NEOkRISPOMENIjTASMAcTIb",
  "OKOUFISMAoIASMA ARCHAIONiNEOjSIFISTOLYGISMAhNa NEOfPARAKALESMAlSYNAGMAmLIbONgRAPISMAgEVMAfSAXI",
  "MATAhEISMAa NEOjIMANSIS ARSEOSa DISIMOUhTETRASIMOUjRISIMOUpTHESEOSa DISIMOUhTETRASIMOUjRISIMOU",
  "yTAVROSa APODEXIAoIGMAeRAGGISMATAlYNAGMA ARCHAIONiMETA STAVROUmNEOiEVMAfRMAaTIKIjTELEIAeSSERAf",
  "TRAPLIhHEMAa APLOUNhTISMOS ESOcXOmS KAI APOTHESoITAeINAGMAgRIAbGORGONgPLIeOMIKOLYGISMAhN ALLOd",
  "RCHAIONiNEOfPARAKALESMAkSIFISTONjSYNAGMAoVAREIA DIPLIfEKFONITIKONlNEOeI ARCHAIONoTHYfXIRON KLA",
  "SMAmYFEN ANOdKATOgSIS APLI DYO DODEKATArDIGRAMMOS EX DODEKATAvMONOGRAMMOS TESSERA DODEKATA+cTR",
  "IGRAMMOS OKTO DODEKATAvTIMORIONrPOKRISISa DIPLImRROIfSILI"]

end SchemaPress.Text.CharacterName
