/-!
# Names of characters that begin with `D` to `H`

The names of characters and their aliases, in their order. Each is written as what it differs in from
the one in front of it (`SchemaPress.Text.CharacterName`).
-/

namespace SchemaPress.Text.CharacterName

/-- The names that begin with `D` to `H`. -/
def fromD : List String := [
  "aDAGGERa KNIFEfWITH LEFT GUARDkRIGHT GUARDvLET SYMBOLkNCERdGOdRK SHADEeUNGLASSESnSH SYMBOLgWIT",
  "H LEFT UPTURNrED LOW LINEiOVERLINEiTRIANGLE-HEADED RIGHTWARDS ARROW+lTA LINK ESCAPEpC1b2b3b4bS",
  "cEAF PERSONjCIDUOUS TREEkMAL EXPONENT SYMBOLpSEPARATOR KEY SYMBOLzREASE FONT SIZE SYMBOLxERcGR",
  "EE CELSIUShFAHRENHEITkSIGNjLaETEdIVERY TRUCKlTA EQUAL TOmNTISTRY SYMBOL LIGHT DOWN AND HORIZON",
  "TALa WITH CIRCLEgTRIANGLEiWAVE+dUP AND HORIZONTALa WITH CIRCLEgTRIANGLEiWAVE+bVERTICAL AND BOT",
  "TOM LEFTeRIGHTmTOP LEFTeRIGHTjWAVEiWITH CIRCLEgTRIANGLE+rPARTMENT STOREoRELICT HOUSE BUILDINGv",
  "SCENDING NODEmERET CAPITAL LETTER AYcBEEdCHEEeDEEdEFbLbMbNaGcRbSaHcTHcWcGAYdHbJEEdKAYdLONG AaH",
  "cEbIbOaOhOIbWcPEEdSHORT AaHcEbIbOaOiTEEcHEEeVEEdWUcYEEdZEEcHEEtSMALL LETTER AYcBEEdCHEEeDEEdEF",
  "bLbMbNaGcRbSaHcTHcWcGAYdHbJEEdKAYdLONG AaHcEbIbOaOhOIbWcPEEdSHORT AaHcEbIbOaOiTEEcHEEeVEEdWUcY",
  "EEdZEEcHEEuTa ISLANDkKTOP COMPUTERiWINDOWmVANAGARI ABBREVIATION SIGNqCUTE ACCENTmCARETfDANDAeI",
  "GIT EIGHTfFIVEdOUReNINEeONEdSEVENeIXdTHREEeWOdZEROjOUBLE DANDAmGAP FILLERjRAVE ACCENTmHEADSTRO",
  "KEkJAIN OMhLETTER AaAbIbUbWbYcBAbBAcHAdCAaNDRA AbEbOhHAdDAbDAbDAbHAdHAdHAdEbFAcGAbGAcHAbHAdLOT",
  "TAL STOPmHAbEAVY YAiIaIcJAbHAcJAdKAbHAbHAeLAbLAbLAeMAaRWARI DDAlNAbGAcNAbNAdYAdOaEbOEdPAbHAdQA",
  "cRAbHAcRAdSAbHAbORT AbEbOgSAdTAbHAcTAbHAeUaEbUaEdVAbOCALIC LaLcRaRkYAbYAdZAbHAkOMcSIGN ANUSVAR",
  "AhVAGRAHAiCANDRABINDUa AVAGRAHAiTHREEeWOdVIRAMAsDOUBLE CANDRABINDU VIRAMAzHIGH SPACING DOTqINV",
  "ERTED CANDRABINDUuNUKTAfPUSHPIKAiSIDDHAMgPACING CANDRABINDUtVIRAMAeSARGAlTRESS SIGN ANUDATTAiU",
  "DATTAsVOWEL SIGN AAbIbUbWbYcCANDRA EbLONG EgOiEbIaIcOaEbOEdPRISHTHAMATRA EpSHORT EbOhUaEbUaEdV",
  "OCALIC LaLcRaR+dICE CONTROL FOUReONEdSTRINGgTHREEeWOrIAERESISgMETER SIGNjOND OPERATORiSHAPE WI",
  "TH A DOT INSIDExTARGETgWITH BOTTOM HALF BLACKrLEFT HALF BLACKpRIGHT HALF BLACKqTOP HALF BLACKz",
  "E FACE-1b2b3b4b5b6hSEL LOCOMOTIVEpFFERENCE BETWEENqGIT EIGHTa COMMAfFULL STOPpFIVEa COMMAfFULL",
  " STOPnOURa COMMAfFULL STOPoNINEa COMMAfFULL STOPoONEa COMMAfFULL STOPnSEVENa COMMAfFULL STOPoI",
  "Xa COMMAfFULL STOPnTHREEa COMMAfFULL STOPoWOa COMMAfFULL STOPnZEROa COMMAfFULL STOPrRAM FOR EA",
  "RTHaLY HEAVENfUMANnGREATER YANGdINlHEAVENLY EARTHnUMAN EARTHlLESSER YANGdINtMENSION ORIGINoNGB",
  "AT CIRCLED SANS-SERIF DIGIT EIGHTfFIVEdOUReNINEeONEdSEVENeIXdTHREEeWOdZEROkNUMBER TEN+dNEGATIV",
  "E CIRCLED DIGIT EIGHTfFIVEdOUReNINEeONEdSEVENeIXdTHREEeWOjNUMBER TENkSANS-SERIF DIGIT EIGHTfFI",
  "VEdOUReNINEeONEdSEVENeIXdTHREEeWOdZEROkNUMBER TEN+sRECT CURRENT SYMBOL FORM TWOxHITiSABLED CAR",
  "iPPOINTED BUT RELIEVED FACErFACEoCONTINUOUS UNDERLINE SYMBOL+bGUISED FACEmTTO MARKiVES AKURU D",
  "IGIT EIGHTfFIVEdOUReNINEeONEdSEVENeIXdTHREEeWOdZEROjOUBLE DANDAmEND OF TEXT MARKqGAP FILLERkIN",
  "ITIAL RAkLETTER AaAcBAbHAdCAbHAdDAbDAbHAdHAdEbGAbHAdHAcIaIcJAcKAbHAdLAbLAdMAcNAbGAcNAcYAdObPAb",
  "HAdRAcSAbHAcSAdTAbHAcTAdUaUcVAcYAbYAdZAjMEDIAL RAcYAjPREFIXED NASAL SIGNtSIGN ANUSVARAiCANDRAB",
  "INDUlHALANTAhNUKTAkVIRAMAfOWEL SIGN AAbIcEbIaIcObUaUwIDESdNG MASKhSION SIGNdLASHfTIMESlORCE SY",
  "MBOLmYA LAMPhZZY FACEeSYMBOLlLEcNA DOUBLE HELIXpO NOT LITTER SYMBOLsCUMENTa WITH PICTUREhTEXTa",
  " AND PICTURE+cDOcES NOT CONTAIN AS MEMBERgNORMAL SUBGROUPa OR EQUAL+jDIVIDEa WITH REVERSED NEG",
  "ATION SLASH+jFORCEfPRECEDEa OR EQUALoOVEfSUCCEEDa OR EQUALxGa FACEfRA ABBREVIATION SIGNrLETTER",
  " AaAbIbUcBAbHAdCAbHAdDAbDAbHAdHAdEbGAbHAdHAcIaIcJAbHAdKAbHAdLAcMAcNAbGAcNAcYAdObPAbHAdRAbRAdSA",
  "bHAcSAdTAbHAcTAbHAeUaUcVAcYAjSIGN ANUSVARAiNUKTAfVIRAMAeSARGAmVOWEL SIGN AAbIbUcEbIaIcObUaUcVO",
  "CALIC RaRzLLAR SIGNiPHINfMINO TILE HORIZONTAL BACKf-00-00b1b2b3b4b5b6e1-00b1b2b3b4b5b6e2-00b1b",
  "2b3b4b5b6e3-00b1b2b3b4b5b6e4-00b1b2b3b4b5b6e5-00b1b2b3b4b5b6e6-00b1b2b3b4b5b6qVERTICAL BACKf-0",
  "0-00b1b2b3b4b5b6e1-00b1b2b3b4b5b6e2-00b1b2b3b4b5b6e3-00b1b2b3b4b5b6e4-00b1b2b3b4b5b6e5-00b1b2b",
  "3b4b5b6e6-00b1b2b3b4b5b6yNG SIGNhORcT ABOVEfMINUSfOPERATORiPLUSfTED CIRCLEfROSSfFENCEfLINE FAC",
  "EjOBELOSgRIGHT-POINTING ANGLEuSOLIDUSgQUAREgTRANSPOSITION MARKERzUBLE ACUTE ACCENTmCIRCLED DIG",
  "IT EIGHTfFIVEdOUReNINEeONEdSEVENeIXdTHREEeWOjNUMBER TENrOLON EQUALkURLY LOOPkDAGGERfOWN TACKjE",
  "XCLAMATION MARKqHIGH-REVERSED-9 QUOTATION MARK+dYPHENgINTEGRALeRSECTIONmLEFT ARC GREATER-THAN ",
  "BRACKET+cOGICAL ANDdORiW LINEf-9 QUOTATION MARKqREVERSED-9 QUOTATION MARK+dNESTED GREATER-THAN",
  "mLESS-THANa WITH UNDERBAR+eOBLIQUE HYPHENoPLUSdRECEDESgIMEa QUOTATION MARKuQUESTION MARKnRIGHT",
  " ARC LESS-THAN BRACKET+bSOLIDUS OPERATORpQUARE INTERSECTIONmUNIONlTACKED COMMAlROKE NOT SIGNoU",
  "BSETeCCEEDSgPERSETgSPENSION MARKpUNIONeP TACKhVERTICAL BARa DOUBLE LEFT TURNSTILEoRIGHT TURNST",
  "ILEwLEFT TURNSTILEsLINEnWAVY OVERLINEo-ENDED MULTIMAPoLINE EQUAL TO OR GREATER-THANmLESS-THANv",
  "SLANTED EQUAL TO OR GREATER-THANmLESS-THANvGREATER-THAN OR EQUAL TOyLESS-THAN OR EQUAL TO+iSTR",
  "UCK CAPITAL CbGAMMAfHbNbPaIcQbRbZjITALIC CAPITAL DjSMALL DbEbIbJoN-ARY SUMMATIONpSMALL GAMMAfP",
  "IqD FEMALE SIGNlMALE SIGNjSYMBOLlGHNUTgVE OF PEACElWN ARROWHEADjFISH TAILjRIGHT DIAGONAL ELLIP",
  "SISxTACKa WITH CIRCLE BELOWx-POINTING RED TRIANGLEmSMALL RED TRIANGLEsTRIANGLE WITH LEFT HALF ",
  "BLACKpRIGHT HALF BLACK+oWARD FACING HOOKa WITH DOTnNOTCHED HOOKa WITH DOT+dS ANCORAfRROWa AND ",
  "RIGHT ONE EIGHTH BLOCK+aFROM BARiLEFTWARDS OF UPWARDS ARROW+aTO BARgWITH CORNER LEFTWARDSqDOUB",
  "LE STROKEnEQUILATERAL ARROWHEADvHORIZONTAL STROKErLARGE TRIANGLE ARROWHEADyMEDIUM TRIANGLE ARR",
  "OWHEADzNOTCHED TAILmSMALL EQUILATERAL ARROWHEADvTRIANGLE ARROWHEADyTIP LEFTWARDSjRIGHTWARDSzBL",
  "ACK ARROWfCIRCLED WHITE ARROWzCOMPRESSED ARROWqDASHED ARROWlOUBLE ARROWmFINGER-POST ARROWrHARP",
  "OON WITH BARB LEFT BESIDE DOWNWARDS HARPOON WITH BARB RIGHT+hUPWARDS HARPOON WITH BARB RIGHT+m",
  "FROM BARiTO BARhWARDSjRIGHT FROM BARiTO BARhWARDS+bEAVY ARROWfCOMPRESSED ARROWwPAIRED ARROWSnQ",
  "UADRUPLE ARROWpROCKETgSANS-SERIF ARROWpQUARED ARROWnTRIANGLE ARROWHEADk-HEADED ARROWa LEFTWARD",
  "S OF UPWARDS TRIANGLE-HEADED ARROW+qTO BARgWITH BOLD SHAFTkDOUBLE HORIZONTAL STROKEyHEAVY SHAF",
  "TlLONG TIP LEFTWARDSjRIGHTWARDStMEDIUM SHAFTmNARROW SHAFTmVERY HEAVY SHAFT+bDASHED ARROWmPAIRE",
  "D ARROWSnZIGZAG ARROWzPLE ARROWlWO HEADED ARROWn-HEADED ARROW WITH TRIANGLE ARROWHEADS+pWHITE ",
  "ARROWa WITHIN TRIANGLE ARROWHEAD+lZIGZAG ARROWvRACHMA SIGNjFTING POINT RIGHTWARDS ARROW+cGONa ",
  "FACEjESSdIVE SLOW SIGNnOMEDARY CAMELmOLING FACEkP OF BLOODjLETfUM WITH DRUMSTICKStUCKcMPLINGgP",
  "LOYAN AFFIX ATTACHED E HOOKgI HOOKgLEFT-TO-RIGHT SECANTuSECANTgTAILcNGENTa HOOKvHIGH ACUTEfCIR",
  "CLEgDOTdGRAVEfLINEdONG GRAVEkTIGHT ACUTElVERTICALa SECANTpWAVEjLEFT HORIZONTAL SECANTvOW ACUTE",
  "eRROWfCIRCLEgDOTdGRAVEfLINEdONG GRAVEkTIGHT ACUTElVERTICALa SECANTpWAVEiMID HORIZONTAL SECANTr",
  "VERTICAL SECANTtRIGHT HORIZONTAL SECANT+dDOUBLE MARKlLETTER AaOUdBbDa ScHcEaEbUcFa NdGa R SfHa",
  "LcIaEcJa Ma SdNa SdSa WITH DOTkWITH DOTaS INSIDE AND ABOVE+cKa MbR SeKcLaHbONG IbUgMa Na SdSbW",
  "ITH DOTkNa Ma SdSbWITH DOTjASAL AbIbObUhOaAbOHcUbWcPa NcERNIN AMbNjRa ScHbOMANIAN IbUkSa Ja Sd",
  "Ka RdMbNbPa RdSbTa RdWITH DOTa BELOWpHORT IgLOAN ANcDHcEEbHbNcJbONbWcUhTa R SdScHcUa NcHbIcVaO",
  "CALIC MjWa RcAbEIcHbIbOaWdXaWcYEjPUNCTUATION CHINOOK FULL STOP+dSIGN O WITH CROSSrTHICK LETTER",
  " SELECTOR+dVDdE-MAIL SYMBOLmAGLEdRa OF MAIZEfRICEhWITH HEARING AIDrTHa GLOBE AMERICAShSIA-AUST",
  "RALIAoEUROPE-AFRICAsROUNDkST SYRIAC CROSSqDITORIAL CORONISqGGbYPTIAN HIEROGLYPH A001b2b3b4b5aA",
  "c6aAbBc7b8b9c10b1b2b3b4aAc5b6b7aAc8b9c20b1b2b3b4b5b6b7b8b9c30b1b2aAc3b4b5b6b7b8b9c40aAc1b2aAc3",
  "aAc4b5aAc6b7b8b9c50b1b2b3b4b5b6b7b8b9c60b1b2b3b4b5b6b7b8b9c70dA001b2b3b4b5b6b7aAbBc8b9c10b1b2b",
  "3b4b5b6b7b8b9c20b1b2b3b4b5b6b7b8b9c30b1b2fB001b2b3b4b5aAc6b7b8b9dEGIN SEGMENTnC001b2aAbBbCc3b4",
  "b5b6b7b8b9c10aAc1b2b3b4b5b6b7b8b9c20b1b2b3b4eD001b2b3b4b5b6b7b8aAc9c10b1b2b3b4b5b6b7b8b9c20b1b",
  "2b3b4b5b6b7aAc8b9c30b1aAc2b3b4aAc5b6b7b8b9c40b1b2b3b4b5b6aAc7b8aAc9c50aAbBbCbDbEbFbGbHbIc1b2aA",
  "c3b4aAc5b6b7b8b9c60b1b2b3b4b5b6b7aAbBbCbDbEbFbGbHfE001b2b3b4b5b6b7b8aAc9aAd10b1b2b3b4b5b6aAc7a",
  "Ac8b9c20aAc1b2b3b4b5b6b7b8aAc9c30b1b2b3b4aAc6b7b8dND SEGMENTlF001aAc2b3b4b5b6b7b8b9c10b1b2b3aA",
  "c4b5b6b7b8b9c20b1aAc2b3b4b5b6b7b8b9c30b1aAc2b3b4b5b6b7aAc8aAc9c40b1b2b3b4b5aAc6aAc7aAc8b9c50b1",
  "aAbBbCc2b3eG001b2b3b4b5b6aAc7aAbBc8b9c10b1aAc2b3b4b5b6b7b8b9c20aAc1b2b3b4b5b6aAc7b8b9c30b1b2b3",
  "b4b5b6aAc7aAc8b9c40b1b2b3aAc4b5aAc6b7b8b9c50b1b2b3b4eH001b2b3b4b5b6aAc7b8dORIZONTAL JOINERrI00",
  "1b2b3b4b5aAc6b7b8b9aAd10aAc1aAc2b3b4b5dNSERT AT BOTTOM ENDdSTARTmTOP ENDdSTARTtK001b2b3b4b5b6b",
  "7b8eL001b2aAc3b4b5b6aAc7b8eM001aAbBc2b3aAc4b5b6b7b8b9c10aAc1b2aAbBbCbDbEbFbGbHc3b4b5aAc6aAc7aA",
  "c8b9c20b1b2aAc3b4aAc5b6b7b8aAc9c30b1aAc2b3aAbBc4b5b6b7b8b9c40aAc1b2b3b4eN001b2b3b4b5b6b7b8b9c1",
  "0b1b2b3b4b5b6b7b8aAbBc9c20b1b2b3b4b5aAc6b7b8b9c30b1b2b3aAc4aAc5aAc6b7aAc8b9c40b1b2dL001b2b3b4b",
  "5aAc6b7b8b9c10b1b2b3b4b5b6b7aAc8b9c20eU001b2b3b4b5b6b7b8b9c10aAc1aAc2b3b4b5b6b7b8aAc9c20b1b2aA",
  "gO001aAc2b3b4b5aAc6aAbBbCbDbEbFc7b8b9c10aAbBbCc1b2b3b4b5b6b7b8b9aAd20aAc1b2b3b4aAc5aAc6b7b8b9a",
  "Ad30aAc1b2b3aAc4b5b6aAbBbCbDc7b8b9c40b1b2b3b4b5b6b7b8b9c50aAbBc1dVERLAY MIDDLEoP001aAc2b3aAc4b",
  "5b6b7b8b9c10b1eQ001b2b3b4b5b6b7eR001b2aAc3aAbBc4b5b6b7b8b9c10aAc1b2b3b4b5b6aAc7b8b9c20b1b2b3b4",
  "b5b6b7b8b9eS001b2aAc3b4b5b6aAc7b8b9c10b1b2b3b4aAbBc5b6b7aAc8b9c20b1b2b3b4b5b6aAbBc7b8b9c30b1b2",
  "b3b4b5aAc6b7b8b9c40b1b2b3b4b5b6eT001b2b3aAc4b5b6b7aAc8aAc9aAd10b1aAc2b3b4b5b6aAc7b8b9c20b1b2b3",
  "b4b5b6b7b8b9c30b1b2aAc3aAc4b5b6eU001b2b3b4b5b6aAbBc7b8b9c10b1b2b3b4b5b6b7b8b9c20b1b2b3aAc4b5b6",
  "b7b8b9aAd30b1b2aAc3b4b5b6b7b8b9c40b1b2eV001aAbBbCbDbEbFbGbHbIc2aAc3b4b5b6b7aAbBc8b9c10b1aAbBbC",
  "c2aAbBc3b4b5b6b7b8b9c20aAbBbCbDbEbFbGbHbIbJbKbLc1b2b3aAc4b5b6b7b8aAc9aAd30aAc1aAc2b3aAc4b5b6b7",
  "aAc8b9c40aAeERTICAL JOINERpW001b2b3aAc4b5b6b7b8b9aAd10aAc1b2b3b4aAc5b6b7aAc8aAc9c20b1b2b3b4aAc",
  "5eX001b2b3b4aAbBc5b6aAc7b8aAfY001aAc2b3b4b5b6b7b8eZ001b2aAbBbCbDc3aAbBc4aAc5aAc6b7b8b9c10b1b2b",
  "3b4b5aAbBbCbDbEbFbGbHbIc6aAbBbCbDbEbFbGbHyIGHT PETALLED OUTLINED BLACK FLORETTE+fOINTED BLACK ",
  "STARkPINWHEEL STARnRECTILINEAR BLACK STAR+eSPOKED ASTERISKpTEARDROP-SPOKED PROPELLER ASTERISK+",
  "jH NOTEkJECT SYMBOLlLBASAN LETTER AbBEcCEbHEdDEbHEdEaIcFEcGEbHAMMAeEcJEdHEcIbJEcKEbHEdLEbLEdME",
  "cNAbDEcEbJEdObPEcQEcREbREdSEbHEdTEbHEdUbVEcXEcYbZEbHEqECTRIC ARROWfLIGHT BULBkPLUGeTORCHgAL IN",
  "TERSECTIONuMENT OFa OPENING DOWNWARDSjUPWARDSpWITH DOT ABOVEjLONG HORIZONTAL STROKEwOVERBARhTW",
  "O HORIZONTAL STROKESwUNDERBARiVERTICAL BAR AT END OF HORIZONTAL STROKE++bPHANTfVATORgFbYMAIC L",
  "ETTER ALEPHeYINeBETHeDALETHgGIMELfHEaTHeKAPHeLAMEDHgMEMdNUNdPEcQOPHeRESHeSADHEdMEKHfHINeTAWcET",
  "HeWAWdYODHeZAYINlIGATURE ZAYIN-YODH+aM DASHeQUADeSPACEgOJI COMPONENT BALDeCURLY HAIRkRED HAIRi",
  "WHITE HAIRuMODIFIER FITZPATRICK TYPE-1-2d3b4b5b6+fPHASIS SYMBOLmTY DOCUMENTiNESTdOTEa PADbGEjP",
  "AGEaSfSETa WITH LEFT ARROW ABOVEqOVERBARhRIGHT ARROW ABOVErSMALL CIRCLE ABOVE+gN DASHeQUADeSPA",
  "CEgD OF GUARDED AREAmLINEeMEDIUMgPROOFcTECTED AREAoSELECTED AREAnTEXTdRANSMISSIONa BLOCKvWITH ",
  "LEFTWARDS ARROW ABOVE+cQaUIRYfTER SYMBOLkVELOPEa WITH DOWNWARDS ARROW ABOVEvLIGHTNINGwOLbMbTcP",
  "AcQUAL AND PARALLEL TOpTO BY DEFINITIONnOR GREATER-THANmLESS-THANjPRECEDESiSUCCEEDSpS COLONfSI",
  "GNa ABOVE LEFTWARDS ARROWpPLUS SIGNjRIGHTWARDS ARROWqTILDE OPERATORtND SLANTED PARALLELa WITH ",
  "TILDE ABOVE+lWITH BUMPY ABOVElDOT BELOWjINFINITY BELOWoTWO DOTS ABOVE AND TWO DOTS BELOW+rWITH",
  " ASTERISKrIANGULAR TOkVALENT TOcWITH FOUR DOTS ABOVE+eRASE TO THE LEFTeRIGHTqIS FORM ONEdTWOlR",
  "OR-BARRED BLACK CIRCLEgDIAMONDhSQUAREmWHITE CIRCLEgDIAMONDhSQUAREySAbCaAPEeTIMATED SYMBOLiSiTB",
  "bHIOPIC COLONdMBINING GEMINATION AND VOWEL LENGTH MARKvMARKpVOWEL LENGTH MARKyMAfDIGIT EIGHTfF",
  "IVEdOUReNINEeONEdSEVENeIXdTHREEeWOjFULL STOPjNUMBER EIGHTYgFIFTYeORTYfHUNDREDhNINETYgSEVENTYgI",
  "XTYfTENa THOUSANDlHIRTYfWENTYnPARAGRAPH SEPARATORsREFACE COLONnQUESTION MARKnSECTION MARKkMICO",
  "LONiYLLABLE BAaAcBAaAcEaEcIbObUcEaEcIbOaAcUbWAbEaEcIdCAaAcCAaAcEaEcHAaAcEaEcHAaAcEaEcIbObUcIbO",
  "bUcIbObUcEaEcHAaAcEaEcIbOaAcUbWAdIbOaAcUbWAdDAaAcDAaAcEaEcHAAcEaEcIbObUcIbOaAcUbWAdEaEcIbOaAcU",
  "bWAcZAAcEaEcIbObUdFAaAcEaEcIbObUbWAbEaEcIcYAdGAaAcEaEcGAaAcEaEcIbObUbWAaAcEaEcIdIbLOTTAL AaAcE",
  "aEcIbOaAcUbWAjOaAcUaRAGE BWEEcIdFWEEcIdGWEaEcIdHHWAeKWEaEcIdMWEEcIdPWEEcIdQWEaEcIjWAaAcEaEcIcY",
  "AaAcEaEcIbObUdHAaAcEaEcHAaAcEaEcIbObUbWAbEaEcIcYAaAcEaEcIbObUdIbOaAcUcJAaAcEaEcIbOaAcUbWAdKAaA",
  "cEaEcIbOaAcUbWAaAcEaEcIcXAaAcEaEcIbObUbWAaAcEaEcIdYAaAcEaEcIbObUdLAaAcEaEcIbOaAcUbWAdMAaAcEaEc",
  "IbOaAcUbWAbEaEcIcYAdNAaAcEaEcIbOaAcUbWAcYAaAcEaEcIbOaAcUbWAePAaAcEaEcHAaAbRYNGEAL AaAcEaEcIbOb",
  "UkEaEcIbOaAcUbWAdIbOaAcUbWAbEaEcIdQAaAcEaEcHAaAcEaEcIbObUbWAaAcEaEcIdIbOaAcUbWAaAcEaEcIcYAaAcE",
  "aEcIbObUdRAaAcEaEcIbOaAcUbWAcYAdSAaAcEaBATBEIT BWAdFWAdMWAdPWAlEcHAaAcEaEcIbOaAcUbWAdIbOaAcSAa",
  "AcEaEcIbObUcUbWAcZAaAcEaEcIbObUbWAeTAaAcEaEcHAaAcEaEcIbOaAcUbWAdIbOaAcSAaAcEaEcIbObUbWAdTHAAcE",
  "aEcIbObUdUbWAcZAaAcEaEcIbOaAcUdVAaAcEaEcIbObUbWAdWAaAcEaEcIbOaAcUcXAaAcEaEcIbOaAcUbWAaAcEaEcIc",
  "YAaAcEaEcIbObUdYAaAcEaEcIbOaAcUcZAaAcEaEcHAaAcEaEcIbObUbWAdIbOaAcUbWAcZAaAcEaEcIbObUmTONAL MAR",
  "K CHIRETgDERETa-HIDETkIFATfHIDETfKENATeURTeRIKRIKgSHORT RIKRIKmYIZETqWORDSPACEqXcULER CONSTANT",
  "mRO SIGNf-CURRENCY SIGNoPEAN CASTLEgPOST OFFICEtVERGREEN TREEnXCESSdLAMATION MARKeQUESTION MAR",
  "KxPRESSIONLESS FACErTENDED ARABIC-INDIC DIGIT EIGHTfFIVEdOUReNINEeONEdSEVENeIXdTHREEeWOdZERO+d",
  "RATERRESTRIAL ALIENsEMELY HEAVY FIVE SPOKED ASTERISKuGREEK CROSSlSALTIREgIX SPOKED ASTERISKtWH",
  "ITE CIRCLEgSQUARE+bYEaGLASSEShSeFACE HOLDING BACK TEARSsMASSAGEhPALMeSAVOURING DELICIOUS FOODx",
  "CREAMING IN FEARrTHROWING A KISSpWITH COLD SWEATiWBOY HATkDIAGONAL MOUTHoFINGER COVERING CLOSE",
  "D LIPS+bHEAD-BANDAGEmLOOK OF TRIUMPHpMEDICAL MASKlONOCLEhNO GOOD GESTUREpOK GESTUREjNE EYEBROW",
  " RAISEDrPEN EYES AND HAND OVER MOUTHyMOUTHa AND COLD SWEAToVOMITINGtPARTY HORN AND PARTY HATxE",
  "EKING EYEkLEADING EYESnROLLING EYESmSTUCK-OUT TONGUEa AND TIGHTLY-CLOSED EYEStWINKING EYE+gTEA",
  "RS OF JOYlHERMOMETERlUNEVEN EYES AND WAVY MOUTH+bOUT MOUTHpSIMILE SIGNlTORYfIRYdLAFELeLEN LEAF",
  "hING DIAGONAL CROSSING NORTH EAST ARROWqRISING DIAGONALyIN WHITE CIRCLE IN BLACK SQUARE+uMILYe",
  "RSI SYMBOLkTHER CHRISTMASoX ICONeMACHINEkEARFUL FACEjTHERfMALE SIGNiININE ORDINAL INDICATORyNC",
  "EReRRIS WHEELiYeFbIELD HOCKEY STICK AND BALLzGURE DASHeSPACEkLE CABINEThFOLDERgSEPARATORlM FRA",
  "MESgPROJECTORmNITE PART INTEGRALsREa ENGINEfXTINGUISHERnCRACKERhWORK SPARKLERjSgST PLACE MEDAL",
  "lQUARTER MOONa SYMBOLgWITH FACEwSTRONG ISOLATEsSHa CAKE WITH SWIRL DESIGNxEYEdING POLE AND FIS",
  "HsTED HAND SIGNoVE DOT MARKePUNCTUATIONtLAG IN HOLEjMINGOfT SHOEfBREADfNESSgEUR-DE-LISjXED BIC",
  "EPSlOPPY DISKiRAL HEARTjWERa PLAYING CARDSmUNCTUATION MARKvUSHED FACEkYaING DISCeENVELOPEiSAUC",
  "ERmOGaGYdLDEReNDUEeOTaPRINTSiR ALLeCESdK AND KNIFEa WITH PLATEvED PARAGRAPHOSoINGeM FEEDgTUNE ",
  "COOKIEmUNTAINfR BALLOON-SPOKED ASTERISKxCLUB-SPOKED ASTERISKtORNER ARROWS CIRCLING ANTICLOCKWI",
  "SE+kDOT MARKePUNCTUATIONpLEAF CLOVERlPOINTED BLACK STARsTEARDROP-SPOKED ASTERISKz-PER-EM SPACE",
  "nTH ROOTjX FACEhRACTION NUMERATOR ONEnSLASHlME WITH AN XePICTUREhTILESoEEZING FACEkNCH FRANC S",
  "IGNiIESkIED SHRIMPkOG FACEgNT-FACING BABY CHICKrTILTED SHADOWED WHITE RIGHTWARDS ARROW+pWNaING",
  " FACE WITH OPEN MOUTH+cSaIcUEL PUMPhLL BLOCKfMOON SYMBOLgWITH FACEoOUTER JOINkSTOPfWIDTH AMPER",
  "SANDiPOSTROPHEjSTERISKiBROKEN BARkCENT SIGNiIRCUMFLEX ACCENTqOLONdMMAbERCIAL ATnDIGIT EIGHTfFI",
  "VEdOUReNINEeONEdSEVENeIXdTHREEeWOdZEROjOLLAR SIGNlEQUALS SIGNkXCLAMATION MARKqFULL STOPjGRAVE ",
  "ACCENTkEATER-THAN SIGNrHYPHEN-MINUSmLATIN CAPITAL LETTER AbBbCbDbEbFbGbHbIbJbKbLbMbNbObPbQbRbS",
  "bTbUbVbWbXbYbZqSMALL LETTER AbBbCbDbEbFbGbHbIbJbKbLbMbNbObPbQbRbSbTbUbVbWbXbYbZtEFT CURLY BRAC",
  "KETnPARENTHESISlSQUARE BRACKEToWHITE PARENTHESISuSS-THAN SIGNnOW LINEiMACRONgNOT SIGNhUMBER SI",
  "GNlPERCENT SIGNlLUS SIGNiOUND SIGNkQUESTION MARKlOTATION MARKoREVERSE SOLIDUSoIGHT CURLY BRACK",
  "ETnPARENTHESISlSQUARE BRACKEToWHITE PARENTHESISxSEMICOLONiOLIDUShTILDEfVERTICAL LINEnWON SIGNi",
  "YEN SIGNqNCTION APPLICATIONrERAL URNjSEdVS1b2b3b4eGAME DIEgRLICfEARa WITH HANDLESiOUT HUBoM ST",
  "ONEgINIeNIEdOMETRIC PROPORTIONlALLY EQUAL TOfIVALENT TOyRGIAN CAPITAL LETTER AENcNcBANdCANcHAR",
  "cINdILdDONdENcGANcHANeHAEbRcEbIEcOEdINcJHANdILdKANcHAReLASdMANdNARdONcPARcHAReQARdRAEdSANcHINe",
  "TANbRdUNcVINdWEcXANdYNcZENcHARtLETTER AENcINcNcBANdCANcHARcINdILdDONdELIFIeNcFIcGANcHANeHAEbRa",
  "D SIGNiEbIEcOEdINcJHANdILdKANcHAReLABIAL SIGNjSdMANdNARdONcPARcHAReQARdRAEdSANcHINeTANbRcURNED",
  " GANkUNcVINdWEcXANdYNcZENcHARlMTAVRULI CAPITAL LETTER AENcINcNcBANdCANcHARcINdILdDONdELIFIeNcF",
  "IcGANcHANeHAEbRaD SIGNiEbIEcOEdINcJHANdILdKANcHAReLABIAL SIGNjSdMANdNARdONcPARcHAReQARdRAEdSAN",
  "cHINeTANbRcURNED GANkUNcVINdWEcXANdYNcZENcHAR+cPARAGRAPH SEPARATORtSMALL LETTER AENcNcBANdCANc",
  "HARcINdILdDONdENcGANcHANeHAEbRcEbIEcOEdINcJHANdILdKANcHAReLASdMANdNARdONcPARcHAReQARdRAEdSANcH",
  "INeTANbRdUNcVINdWEcXANdYNcZENcHARyRMAN PENNY SIGNpTA MARKiHOSTeIMEL SYMBOLkRAFFE FACEjLaS SYMB",
  "OLlLAGOLITIC CAPITAL LETTER AZUdBIG YUSgUKYeCAUDATE CHRIVInHRIVIgDJERVIfOBROeZELOfFITAdRITUfGL",
  "AGOLIhHERUeIaNITIAL IZHElOTATED BIG YUShSMALL YUSqZHEbITSAhKAKOeLATINATE MYSLITEpJUDIJEhMYSLIT",
  "EhNASHIfONUcTUdPEbOKOJIgRITSIfSHAbTAaPICgLOVOeMALL YUSa WITH TAILsPIDERY HAkTROKUTASTI AlSIcVR",
  "IDOgUKUdVEDEeYATIdERIbUcSTUeObUcZEMLJAfHIVETEwSMALL LETTER AZUdBIG YUSgUKYeCAUDATE CHRIVInHRIV",
  "IgDJERVIfOBROeZELOfFITAdRITUfGLAGOLIhHERUeIaNITIAL IZHElOTATED BIG YUShSMALL YUSqZHEbITSAhKAKO",
  "eLATINATE MYSLITEpJUDIJEhMYSLITEhNASHIfONUcTUdPEbOKOJIgRITSIfSHAbTAaPICgLOVOeMALL YUSa WITH TA",
  "ILsPIDERY HAkTROKUTASTI AlSIcVRIDOgUKUdVEDEeYATIdERIbUcSTUeObUcZEMLJAfHIVETE+cSS OF MILKlEICH ",
  "STARKkOBE WITH MERIDIANSrVESdWING STARlOAL NETfTcGGLESfLFEReRILLAfTHIC LETTER AHSAdIHVUSgBAIRK",
  "ANhDAGSeEISdFAIHUfGIBAeHAGLdWAIRfIGGWSeUJAeJERdKUSMAfLAGUSfMANNAfNAUTHSfINE HUNDREDiTYgOTHALfP",
  "AIRTHRAiQAIRTHRAiRAIDAfSAUILfTEIWSeHIUTHgURUSeWINJAsRADUATION CAPlNTHA AU LENGTH MARKoLETTER A",
  "aAbIbUcBAbHAdCAbHAdDAbDAbHAdHAdEEcGAbHAdHAcIaIcJAbHAdKAbHAdLAbLAdMAcNAbGAcNAcYAdOOcPAbHAdRAcSA",
  "bHAcSAdTAbHAcTAbHAeUaUcVAbEDIC ANUSVARAiDOUBLE ANUSVARAuOCALIC LaLcRaRkYAjOMcSIGN ANUSVARAhVAG",
  "RAHAiCANDRABINDUkOMBINING ANUSVARA ABOVEyNUKTAfPLUTAfVIRAMAeSARGAmVOWEL SIGN AAbIbUcEEcIaIcOOc",
  "UaUcVOCALIC LaLcRaR+aPESdVE ACCENTkEATER-THAN ABOVE DOUBLE-LINE EQUAL ABOVE LESS-THAN+hLESS-TH",
  "AN ABOVE DOUBLE-LINE EQUAL+hRIGHTWARDS ARROWqSIMILAR ABOVE LESS-THANpOR EQUALpLANTED EQUAL ABO",
  "VE LESS-THAN ABOVE SLANTED EQUAL++cND NOT APPROXIMATEpSINGLE-LINE NOT EQUAL TO+cBESIDE LESS-TH",
  "ANpUT NOT EQUAL TOfIVALENT TOvCLOSED BY CURVEa ABOVE SLANTED EQUAL+jEQUAL TO OR LESS-THANvOR A",
  "PPROXIMATElEQUAL TOfIVALENT TOnLESS-THANjSLANTED EQUAL TOa WITH DOT ABOVEa LEFTkINSIDE+iVER EQ",
  "UAL TOjLAPPING LESS-THANvSIGNeWITH CIRCLE INSIDEnDOTdQUESTION MARK ABOVE+iEK ACROPHONIC ATTIC ",
  "FIFTYa STATERShTALENTSgHOUSANDa STATERSuVEa HUNDREDa STATERShTALENTSpSTATERShTALENTSgHOUSANDa ",
  "TALENTSvONE DRACHMAhHALFdUNDRED STATERShTALENTSpQUARTERhTHOUSAND STATERShTALENTSuTEN MNASeSTAT",
  "ERShTALENTSgHOUSAND STATERS+aCARYSTIAN FIVE HUNDREDvYRENAIC TWO DRACHMASvDELPHIC FIVE MNASrEPI",
  "DAUREAN FIVE HUNDREDmTWOa DRACHMASxHERAEUM ONE PLETHRONrMIONIAN FIFTYfONEdTENoMESSENIAN TENnNA",
  "XIAN FIVE HUNDREDtSTRATIAN FIFTY MNAStTHESPIAN FIFTYdVE HUNDREDhTHOUSANDnONEa HUNDREDhTHOUSAND",
  "mTENcHIRTYeREE HUNDREDmWOlROEZENIAN FIFTYa ALTERNATE FORMsVEa HUNDREDmTENa ALTERNATE FORM+nNO ",
  "TELEIAjROURA SIGNjTABE SIGNlBETA SYMBOLlCAPITAL DOTTED LUNATE SIGMA SYMBOL+aKAI SYMBOLkLETTER ",
  "ALPHAa WITH DASIAa AND OXIAa AND PROSGEGRAMMENIxPERISPOMENIa AND PROSGEGRAMMENI+dROSGEGRAMMENI",
  "oVARIAa AND PROSGEGRAMMENI+iMACRONgOXIAePROSGEGRAMMENInSILIa AND OXIAa AND PROSGEGRAMMENIxPERI",
  "SPOMENIa AND PROSGEGRAMMENI+dROSGEGRAMMENIoVARIAa AND PROSGEGRAMMENI+iTONOSfVARIAeRACHYqRCHAIC",
  " SAMPInBETAeCHIdDELTAfEPSILONa WITH DASIAa AND OXIAeVARIApOXIAePSILIa AND OXIAeVARIApTONOSfVAR",
  "IArTAa WITH DASIAa AND OXIAa AND PROSGEGRAMMENIxPERISPOMENIa AND PROSGEGRAMMENI+dROSGEGRAMMENI",
  "oVARIAa AND PROSGEGRAMMENI+iOXIAePROSGEGRAMMENInSILIa AND OXIAa AND PROSGEGRAMMENIxPERISPOMENI",
  "a AND PROSGEGRAMMENI+dROSGEGRAMMENIoVARIAa AND PROSGEGRAMMENI+iTONOSfVARIAoGAMMAfHETAeIOTAa WI",
  "TH DASIAa AND OXIAePERISPOMENIlVARIAoIALYTIKAjMACRONgOXIAePSILIa AND OXIAePERISPOMENIlVARIApTO",
  "NOSfVARIAeRACHYqKAPPAfLAMDAfMUcNUcOMEGAa WITH DASIAa AND OXIAa AND PROSGEGRAMMENIxPERISPOMENIa",
  " AND PROSGEGRAMMENI+dROSGEGRAMMENIoVARIAa AND PROSGEGRAMMENI+iOXIAePROSGEGRAMMENInSILIa AND OX",
  "IAa AND PROSGEGRAMMENIxPERISPOMENIa AND PROSGEGRAMMENI+dROSGEGRAMMENIoVARIAa AND PROSGEGRAMMEN",
  "I+iTONOSfVARIAoICRONa WITH DASIAa AND OXIAeVARIApOXIAePSILIa AND OXIAeVARIApTONOSfVARIAsPAMPHY",
  "LIAN DIGAMMArHIcIbSIdRHOa WITH DASIAoSANcHOcIGMAfTAUcHETAfUPSILONa WITH DASIAa AND OXIAePERISP",
  "OMENIlVARIAoIALYTIKAjMACRONgOXIAeTONOSfVARIAeRACHYtXIcYOTdZETAkUNATE SIGMA SYMBOLtREVERSED DOT",
  "TED LUNATE SIGMA SYMBOL+aLUNATE SIGMA SYMBOL+cTHETA SYMBOLuDASIAa AND OXIAePERISPOMENIlVARIAoI",
  "ALYTIKA AND OXIAePERISPOMENIlVARIAjTONOSoRACHMA SIGNmFIVE OBOLS SIGNoOUR OBOLS SIGNpGRAMMA SIG",
  "NlINDICTION SIGNmSTRUMENTAL NOTATION SYMBOL-1a1b2b3b4b7b8b9c2a3b4b5b6b7b9c30b2b6b7b8b9c4a0b2b3",
  "b5b7b8b9c5a0b1b2b3b4c7b8+eKAI SYMBOLiPPA SYMBOLlORONISgYATHOS BASE SIGNrLETTER ARCHAIC KOPPAnD",
  "IGAMMAhKOPPAfSAMPIeMALL CAPITAL GAMMAfLAMDAfOMEGAfPIbSIdRHOqTIGMAgYOTjITRA SIGNjOWER NUMERAL S",
  "IGNrUNATE EPSILON SYMBOLoSIGMA SYMBOLtMETRETES SIGNmUSICAL LEIMMAoNUMERAL SIGNmOBOL SIGNiNE HA",
  "LF SIGNa ALTERNATE FORMyQUARTER SIGNpUNKIA SIGNkXIAePERISPOMENIkHI SYMBOLjI SYMBOLiROSGEGRAMME",
  "NInSILIa AND OXIAePERISPOMENIlVARIApQUESTION MARKnREVERSED LUNATE EPSILON SYMBOL+dHO SYMBOLgWI",
  "TH STROKE SYMBOLwSINUSOID SIGNmMALL DOTTED LUNATE SIGMA SYMBOL+aLETTER ALPHAa WITH DASIAa AND ",
  "OXIAa AND YPOGEGRAMMENIwPERISPOMENIa AND YPOGEGRAMMENI+dVARIAa AND YPOGEGRAMMENIxYPOGEGRAMMENI",
  "xMACRONgOXIAa AND YPOGEGRAMMENIwPERISPOMENIa AND YPOGEGRAMMENI+cSILIa AND OXIAa AND YPOGEGRAMM",
  "ENIwPERISPOMENIa AND YPOGEGRAMMENI+dVARIAa AND YPOGEGRAMMENIxYPOGEGRAMMENIxTONOSfVARIAa AND YP",
  "OGEGRAMMENIwRACHYgYPOGEGRAMMENIxRCHAIC KOPPAfSAMPInBETAeCHIdDELTAeIGAMMAhEPSILONa WITH DASIAa ",
  "AND OXIAeVARIApOXIAePSILIa AND OXIAeVARIApTONOSfVARIArTAa WITH DASIAa AND OXIAa AND YPOGEGRAMM",
  "ENIwPERISPOMENIa AND YPOGEGRAMMENI+dVARIAa AND YPOGEGRAMMENIxYPOGEGRAMMENIxOXIAa AND YPOGEGRAM",
  "MENIwPERISPOMENIa AND YPOGEGRAMMENI+cSILIa AND OXIAa AND YPOGEGRAMMENIwPERISPOMENIa AND YPOGEG",
  "RAMMENI+dVARIAa AND YPOGEGRAMMENIxYPOGEGRAMMENIxTONOSfVARIAa AND YPOGEGRAMMENIxYPOGEGRAMMENIwF",
  "INAL SIGMAlGAMMAfHETAeIOTAa WITH DASIAa AND OXIAePERISPOMENIlVARIAoIALYTIKAa AND OXIAePERISPOM",
  "ENIlTONOSfVARIAtMACRONgOXIAePERISPOMENIkSILIa AND OXIAePERISPOMENIlVARIApTONOSfVARIAeRACHYqKAP",
  "PAeOPPAfLAMDAfMUcNUcOMEGAa WITH DASIAa AND OXIAa AND YPOGEGRAMMENIwPERISPOMENIa AND YPOGEGRAMM",
  "ENI+dVARIAa AND YPOGEGRAMMENIxYPOGEGRAMMENIxOXIAa AND YPOGEGRAMMENIwPERISPOMENIa AND YPOGEGRAM",
  "MENI+cSILIa AND OXIAa AND YPOGEGRAMMENIwPERISPOMENIa AND YPOGEGRAMMENI+dVARIAa AND YPOGEGRAMME",
  "NIxYPOGEGRAMMENIxTONOSfVARIAa AND YPOGEGRAMMENIxYPOGEGRAMMENIwICRONa WITH DASIAa AND OXIAeVARI",
  "ApOXIAePSILIa AND OXIAeVARIApTONOSfVARIAsPAMPHYLIAN DIGAMMArHIcIbSIdRHOa WITH DASIAfPSILIoSAMP",
  "IdNcHOcIGMAeTIGMAgTAUcHETAfUPSILONa WITH DASIAa AND OXIAePERISPOMENIlVARIAoIALYTIKAa AND OXIAe",
  "PERISPOMENIlTONOSfVARIAtMACRONgOXIAePERISPOMENIkSILIa AND OXIAePERISPOMENIlVARIApTONOSfVARIAeR",
  "ACHYtXIcZETAlREVERSED DOTTED LUNATE SIGMA SYMBOL+aLUNATE SIGMA SYMBOL+hUBSCRIPT SMALL LETTER B",
  "ETAeCHIdGAMMAfPHIdRHOzYMBOL TAU RHOoTALENT SIGNkHETA SYMBOLkREE OBOLS SIGNkQUARTERS SIGNsONOSe",
  "RYBLION BASE SIGNrWO OBOLS SIGNkTHIRDS SIGNpUPSILON WITH ACUTE AND HOOK SYMBOLvDIAERESIS AND H",
  "OOK SYMBOLzHOOK SYMBOLyVARIAeOCAL NOTATION SYMBOL-1a0b1b2b3b4b5b6b7b8b9c2a0b1b2b3b4c3b4b5a0b1b",
  "2b3b4c6b7b8b9xXESTES SIGNlYEAR SIGNiPOGEGRAMMENInZERO SIGNlN APPLEfBOOKeHEARTfSALADjIMACING FA",
  "CElNNING CAT FACE WITH SMILING EYES+aFACEa WITH ONE LARGE AND ONE SMALL EYE+bSMILING EYESlTAR ",
  "EYES+aOUP MARKeSEPARATORmWING HEARTmSbUARANI SIGNiDSMANhIDE DOGgTAReJARATI ABBREVIATION SIGNrD",
  "IGIT EIGHTfFIVEdOUReNINEeONEdSEVENeIXdTHREEeWOdZEROkLETTER AaAbIbUcBAbHAdCAbHAdDAbDAbHAdHAdEbG",
  "AbHAdHAcIaIcJAbHAdKAbHAdLAbLAdMAcNAbGAcNAcYAdObPAbHAdRAcSAbHAcSAdTAbHAcTAbHAeUaUcVAbOCALIC LaL",
  "cRaRkYAcZHAkOMcRUPEE SIGNkSIGN ANUSVARAhVAGRAHAiCANDRABINDUkIRCLE NUKTA ABOVEsMADDAHgNUKTAfSHA",
  "DDAfUKUNfTHREE-DOT NUKTA ABOVEuWO-CIRCLE NUKTA ABOVEwVIRAMAeSARGAmVOWEL CANDRA EbOiSIGN AAbIbU",
  "cCANDRA EbOiEbIaIcObUaUcVOCALIC LaLcRaR+cNJALA GONDI DIGIT EIGHTfFIVEdOUReNINEeONEdSEVENeIXdTH",
  "REEeWOdZEROkLETTER AaAbIbUcBAbHAdCAbHAdDAbDAbHAdHAdEEcGAbHAdHAcIaIcJAbHAdKAbHAdLAbLAdMAcNAbGAd",
  "OOcPAbHAdRAcSAcTAbHAcTAbHAeUaUcVAcYAjOMcSIGN ANUSVARAiVISARGAmVIRAMAfOWEL SIGN AAbIbUcEEcIaIcO",
  "OcUaUzRMUKHI ABBREVIATION SIGNqDDAKfDIGIT EIGHTfFIVEdOUReNINEeONEdSEVENeIXdTHREEeWOdZEROkEK ON",
  "KARiIRIdLETTER AaAbIbUcBAbHAdCAbHAdDAbDAbHAdHAdEEcFAcGAbHAbHAeHAcIaIcJAbHAdKAbHAbHAeLAbLAdMAcN",
  "AbGAcNAcYAdOOcPAbHAdRAbRAdSAbHAdTAbHAcTAbHAeUaUcVAcYAcZAjSIGN ADAK BINDIkBINDIfNUKTAfUDAATfVIR",
  "AMAeSARGAhYAKASHlTIPPIfURAdVOWEL SIGN AAbIbUcEEcIaIcOOcUaUwHADESdIR SPACEgCUTfLFWIDTH BLACK SQ",
  "UAREmDOWNWARDS ARROWpFORMS LIGHT VERTICALuHANGUL FILLERgLETTER AaEcCHIEUCHgIEUCfEaObUcHIEUHfIa",
  "EUNGfKHIEUKHgIYEOKa-SIOSlMIEUMfNIEUNa-CIEUCfHIEUHlOaEcPHIEUPHgIEUPa-SIOSkRIEULa-HIEUHfKIYEOKgM",
  "IEUMfPHIEUPHgIEUPfSIOSeTHIEUTHnSIOSdSANGCIEUCfKIYEOKgPIEUPfSIOSeTIKEUTlTHIEUTHgIKEUTgUbWAaEcEa",
  "OcIcYAaEcEaOcIbObUqIDEOGRAPHIC COMMAfFULL STOPvKATAKANA LETTER AbEbHAbEbIbObUcIbKAbEbIbObUcMAb",
  "EbIbObUcNaAbEbIbObUcObRAbEbIbObUcSAbEbIbMALL AbEbIbObTUcUbYAbObUhObUcTAbEbIbObUcUbWAbOcYAbObUj",
  "MIDDLE DOTkSEMI-VOICED SOUND MARKwVOICED SOUND MARKs-HIRAGANA PROLONGED SOUND MARK+mLEFT CORNE",
  "R BRACKETpWARDS ARROWpRIGHT CORNER BRACKETpWARDS ARROWqUPWARDS ARROWnWHITE CIRCLEuMBURGERgMERa",
  " AND PICKeSICKLEgWRENCHoSAbTER FACEkND WITH INDEX AND MIDDLE FINGERS CROSSED+aFINGER AND THUMB",
  " CROSSED+kBAGbLLeSHAKEgGUL CHOSEONG CEONGCHIEUMCHIEUCHgIEUCfSIOSdSANGCIEUCfSIOStHIEUCHa-HIEUHf",
  "KHIEUKHmTUEUMCHIEUCHgIEUCfSIOSdSANGCIEUCfSIOSqIEUCa-IEUNGlFILLERgHIEUHa-SIOSkIEUNGa-CHIEUCHgIE",
  "UCfHIEUHfKIYEOKgMIEUMfPANSIOSgHIEUPHgIEUPfRIEULfSIOSeTHIEUTHgIKEUTmKAPYEOUNMIEUMfPHIEUPHgIEUPf",
  "RIEULfSSANGPIEUPrHIEUKHgIYEOKa-TIKEUTnMIEUMa-KIYEOKgPIEUPfSIOSeTIKEUTmNIEUNa-CIEUCfHIEUHfKIYEO",
  "KgPIEUPfSIOSeTIKEUTmPANSIOSgHIEUPHa-HIEUHfPIEUPmIEUPa-CHIEUCHgIEUCfHIEUHfKHIEUKHgIYEOKgNIEUNfP",
  "HIEUPHhSIOSa-CIEUCfKIYEOKgPIEUPfTHIEUTHgIKEUTkSANGSIOSjTHIEUTHgIKEUTmRIEULa-CIEUCfHIEUHfKAPYEO",
  "UNPIEUPmHIEUKHgIYEOKgMIEUMfNIEUNfPIEUPfSIOSdSANGKIYEOKgPIEUPfTIKEUTlTIKEUTmSIOSa-CHIEUCHgIEUCf",
  "HIEUHfIEUNGfKHIEUKHgIYEOKgMIEUMfNIEUNfPHIEUPHgIEUPa-KIYEOKmRIEULfSSANGSIOSjTHIEUTHgIKEUTkSANGC",
  "IEUCa-HIEUHlHIEUHfIEUNGfKIYEOKgNIEUNfPIEUPfRIEULfSIOSa-PIEUPkTHIEUTHgIKEUTgYEORINHIEUHqTHIEUTH",
  "gIKEUTa-CIEUCfKIYEOKgMIEUMfPIEUPfRIEULfSIOSlYEORINHIEUHjSIEUNGrDOUBLE DOT TONE MARKuFILLERgJON",
  "GSEONG CHIEUCHgIEUCa-PIEUPfSSANGPIEUPqHIEUHa-MIEUMfNIEUNfPIEUPfRIEULlIEUNGa-KHIEUKHgIYEOKgSSAN",
  "GKIYEOKrKAPYEOUNMIEUMfPHIEUPHgIEUPfRIEULmHIEUKHgIYEOKa-CHIEUCHhHIEUHfKHIEUKHhNIEUNfPIEUPfRIEUL",
  "fSIOSa-KIYEOKsMIEUMa-CHIEUCHgIEUCfHIEUHfKIYEOKgNIEUNfPANSIOSgIEUPa-SIOSkRIEULfSIOSdSANGNIEUNfS",
  "IOSpNIEUNa-CHIEUCHgIEUCfHIEUHfKIYEOKgPANSIOShRIEULfSIOSeTHIEUTHgIKEUTmPANSIOSa-KAPYEOUNPIEUPnP",
  "IEUPmHIEUPHa-PIEUPfSIOSeTHIEUTHoIEUPa-CHIEUCHgIEUCfHIEUHfMIEUMfPHIEUPHhRIEULa-PHIEUPHnSIOSa-TI",
  "KEUTlTIKEUTmRIEULa-HIEUHfKAPYEOUNPIEUPmHIEUKHgIYEOKa-HIEUHfSIOSlMIEUMa-HIEUHfKIYEOKgSIOSkNIEUN",
  "fPANSIOSgHIEUPHgIEUPa-HIEUHfPHIEUPHhSIOSeTIKEUTmSIOSdSANGKIYEOKgSIOSjTHIEUTHgIKEUTa-HIEUHmYEOR",
  "INHIEUHa-HIEUHpSIEUNGoSIOSa-CHIEUCHgIEUCfHIEUHfKAPYEOUNPIEUPmIYEOKgMIEUMfPANSIOSgIEUPfRIEULfTH",
  "IEUTHgIKEUTkSANGCIEUCfIEUNGfKIYEOKgMIEUMfNIEUNfPIEUPfRIEULa-KHIEUKHnSIOSa-KIYEOKgTIKEUTlTIKEUT",
  "a-PIEUPmYESIEUNGnTHIEUTHgIKEUTa-CHIEUCHgIEUCfKIYEOKgPIEUPfRIEULfSIOSa-KIYEOKlTHIEUTHoYEORINHIE",
  "UHjSIEUNGa-HIEUHfKHIEUKHgIYEOKgMIEUMfPANSIOShSIOSdSANGKIYEOK+dUNGSEONG Aa-EUcObUcEbRAEAa-AbEaO",
  "cIbUhEaOa-EUcObUdUa-AbEaObUcObUeFILLERgIa-AaRAEAfEUcIbOa-IdUbYAa-OcEcEaOcObUeOa-EaOcOa-IdUbYAa",
  "EcEaOeEcSSANGARAEAkUa-AaEcEO-EUfI-IdUbYEaOfWAaEcEaOcIcYAa-ObUbYOdEcEaOa-ObUbYAfIa-UdOa-AaEcEOc",
  "IbObYAaEcEOfUa-AaEcEaOcIbObUbYEaOqLETTER AaEbRAEAaEgCHIEUCHgIEUCfEaObUcHIEUHfIaEUNGfKAPYEOUNMI",
  "EUMfPHIEUPHgIEUPfSSANGPIEUPrHIEUKHgIYEOKa-SIOSlMIEUMa-PANSIOSgIEUPfSIOSkNIEUNa-CIEUCfHIEUHfPAN",
  "SIOShSIOSeTIKEUTmOaEcPANSIOSgHIEUPHgIEUPa-CIEUCfKIYEOKgSIOSa-KIYEOKgTIKEUTlTHIEUTHgIKEUTmRIEUL",
  "a-HIEUHfKIYEOKa-SIOSlMIEUMfPANSIOSgHIEUPHgIEUPa-SIOSkSIOSeTHIEUTHgIKEUTgYEORINHIEUHrSIOSa-CIEU",
  "CfKIYEOKgNIEUNfPIEUPfTIKEUTkSANGCIEUCfHIEUHfIEUNGfKIYEOKgNIEUNfPIEUPfSIOSeTIKEUTlTHIEUTHgIKEUT",
  "gUbWAaEcEaOcIcYAaEcEaOaRINHIEUHjSIEUNGa-PANSIOShSIOSmIbOa-IbYAaEfUa-IbYEaOnSINGLE DOT TONE MAR",
  "KxZHOU NUMERAL EIGHTfFIVEdOUReNINEeONEdSEVENeIXdTENcHIRTYeREEeWENTYeOrIFI ROHINGYA DIGIT EIGHT",
  "fFIVEdOUReNINEeONEdSEVENeIXdTHREEeWOdZEROkLETTER AbBAcCAcDAbDAdFAcGAcHAcJAcKAbHAcINNA WAcYAiLA",
  "cMAcNAbGAcYAdPAcRAbRAdSAbHAdTAbTAdVAcWAcYAcZAjMARK NA KHONNAjSAKINkSIGN HARBAHAYiTAHALAeNAcSSI",
  "kVOWEL AbEbIbObUuUNOO LETTER AbBAcDAcGAcHAcIbKAcLAcMAcNAbGAdPAcRAcSAcTAcUbWAcYAjSIGN PAMUDPODn",
  "VOWEL SIGN IbUsPPY PERSON RAISING ONE HAND+bRD DISKhTCHING CHICKlRAN LETTER ALEPHeYNdBETHeDALE",
  "TH-RESHlGIMELfHEaTHeKAPHeLAMEDHgMEMdNUNdPEcQOPHeSADHEdMEKHfHINeTAWcETHeWAWdYODHeZAYNlNUMBER FI",
  "VEeONEa HUNDREDlTENcWENTYtEADPHONEfSTONEa GRAVEYARD SYMBOLxR-NO-EVIL MONKEYpT DECORATIONkHANDS",
  "fWITH ARROWfRIBBONgTIP ON THE LEFTxVY AMPERSAND ORNAMENTrRROW SHAFT WIDTH ONEa HALFeTHIRDjTWO ",
  "THIRDS+bSTERISKiBALLOT XhLACK CURVED DOWNWARDS AND RIGHTWARDS ARROW+eUPWARDS AND RIGHTWARDS AR",
  "ROW+jHEARTg-FEATHERED NORTH EAST ARROWqRIGHTWARDS ARROWqSOUTH EAST ARROW+gCHECK MARKhVRON SNOW",
  "FLAKEqIRCLEa WITH CIRCLE INSIDEnSTROKE AND TWO DOTS ABOVE+fD SALTIREoONCAVE-POINTED BLACK RIGH",
  "TWARDS ARROW+mDASHED TRIANGLE-HEADED RIGHTWARDS ARROW+mIVISION SIGNmOLLAR SIGNjUBLE COMMA QUOT",
  "ATION MARK ORNAMENT+dTURNED COMMA QUOTATION MARK ORNAMENT+pWNWARDS ARROW WITH EQUILATERAL ARRO",
  "WHEADvLARGE EQUILATERAL ARROWHEAD+wEIGHT POINTED BLACK STARkPINWHEEL STARnRECTILINEAR BLACK ST",
  "AR+eSPOKED ASTERISKpTEARDROP-SPOKED PROPELLER ASTERISK+nQUALS SIGNkXCLAMATION MARK ORNAMENTiSY",
  "MBOLxFIVE POINTED BLACK STARsSPOKED ASTERISKtOUR BALLOON-SPOKED ASTERISK+cGREEK CROSSlHEART EX",
  "CLAMATION MARK ORNAMENT+eORIZONTAL FILLpINTERROBANG ORNAMENTuLARGE CIRCLEkTIN CROSSkEFT-POINTI",
  "NG ANGLE BRACKET ORNAMENTqQUOTATION MARK ORNAMENT+nWARDS ARROW WITH EQUILATERAL ARROWHEADvLARG",
  "E EQUILATERAL ARROWHEAD+vIGATURE OPEN ET ORNAMENTyOW DOUBLE COMMA QUOTATION MARK ORNAMENT+kSIN",
  "GLE COMMA QUOTATION MARK ORNAMENT+lER RIGHT-SHADOWED WHITE RIGHTWARDS ARROW+rMINUS SIGNjULTIPL",
  "ICATION XqNORTH EAST ARROWfPOINTING BUDdVINE LEAFxWEST POINTING BUDdVINE LEAF+dOPEN CENTRE CRO",
  "SSqUTLINED BLACK STARsVAL WITH OVAL INSIDEvPLUS SIGNjRIGHT-POINTING ANGLE BRACKET ORNAMENTqQUO",
  "TATION MARK ORNAMENT+nWARDS ARROWa WITH EQUILATERAL ARROWHEADvLARGE EQUILATERAL ARROWHEAD+wOUN",
  "D-TIPPED RIGHTWARDS ARROW+dSALTIREfNS-SERIF INTERROBANG ORNAMENT+eCRIPT LIGATURE ET ORNAMENT+a",
  "INGLE COMMA QUOTATION MARK ORNAMENT+dTURNED COMMA QUOTATION MARK ORNAMENT+pX POINTED BLACK STA",
  "RsSPOKED ASTERISKsOUTH EAST ARROWfPOINTING BUDdVINE LEAFxWEST POINTING BUDdVINE LEAF+cPARKLEhT",
  "EARDROP-SHANKED RIGHTWARDS ARROWxPOKED ASTERISKiPINWHEEL ASTERISK+gRIANGLE-HEADED RIGHTWARDS A",
  "RROW+fWELVE POINTED BLACK STARkPINWHEEL STAR+cUPPER RIGHT-SHADOWED WHITE RIGHTWARDS ARROW+pWAR",
  "DS ARROW WITH EQUILATERAL ARROWHEADvLARGE EQUILATERAL ARROWHEAD+uVERTICAL BARmWEDGE-TAILED RIG",
  "HTWARDS ARROW+cHITE CIRCLEgDOWN-POINTING TRIANGLEwSQUARElIDE-HEADED RIGHTWARDS ARROW+gBREW ACC",
  "ENT ATNAH HAFUKHmDARGAeEHIeETNAHTAhGERESHa MUQDAMkSHAYIMjILUYeMAHAPAKHhERKHAa KEFULAmUNAHfOLEd",
  "PASHTAeZERfQADMAdRNEY PARAlREVIAfSEGOLeHALSHELETkTELISHA GEDOLAgQETANAmVIReIPEHAgYERAH BEN YOM",
  "OmTIVfZAQEF GADOLfQATANjRQAeINORmLETTER ALEFa WITH MAPIQfPATAHfQAMATSoTERNATIVE AYINePLUS SIGN",
  "uYINeBETa WITH DAGESHgRAFEnDALETa WITH DAGESHrFINAL KAFa WITH DAGESHpMEMdNUNdPEa WITH DAGESHoT",
  "SADIlGIMELa WITH DAGESHrHEa WITH MAPIQlTdKAFa WITH DAGESHgRAFEnLAMEDa WITH DAGESHrMEMa WITH DA",
  "GESHpNUNa WITH DAGESHpPEa WITH DAGESHgRAFEmQOFa WITH DAGESHpRESHa WITH DAGESHqSAMEKHa WITH DAG",
  "ESHrHINa WITH DAGESHa AND SHIN DOThIN DOTsSHIN DOThIN DOTrTAVa WITH DAGESHoETa WITH DAGESHoSAD",
  "Ia WITH DAGESHrVAVa WITH DAGESHgHOLAMoWIDE ALEFeDALETfFINAL MEMjHEcKAFdLAMEDfRESHeTAViYODa WIT",
  "H DAGESHgHIRIQoZAYINa WITH DAGESHxIGATURE ALEF LAMEDkYIDDISH DOUBLE VAVdYODkVAV YODhYOD YOD PA",
  "TAH+eMARK LOWER DOTjMASORA CIRCLEnUPPER DOToPOINT DAGESH OR MAPIQpHATAF PATAHfQAMATSgSEGOLkIRI",
  "QeOLAMa HASER FOR VAVtJUDEO-SPANISH VARIKAuMETEGfPATAHfQAMATSa QATANlUBUTSgRAFEeSEGOLeHEVAdIN ",
  "DOThIN DOThTSEREkUNCTUATION GERESHdSHAYIMjMAQAFfNUN HAFUKHAlPASEQfSOF PASUQvYOD TRIANGLErDGEHO",
  "GgLICOPTERhLSCHREIBER PAUSE SYMBOLxM SYMBOLhET WITH WHITE CROSSvNTAIGANA LETTER A-1b2b3bWOeE-1",
  "b2b3b4b5b6dHA-1a0b1c2b3b4b5b6b7b8b9dE-1b2b3b4b5b6b7dI-1b2b3b4b5b6b7dO-1b2b3b4b5b6b7b8dU-1b2b3e",
  "I-1b2b3b4dKA-1a0b1c2b3b4b5b6b7b8b9bKEeE-1b2b3b4b5b6dI-1b2b3b4b5b6b7b8dO-1b2b3bKIeU-1b2b3b4b5b6",
  "b7eMA-1b2b3b4b5b6b7dE-1b2bMAeI-1b2b3b4b5b6b7dO-1b2b3b4b5b6dU-1b2b3b4eN-MU-MO-1b2iA-1b2b3b4b5b6",
  "b7b8b9dE-1b2b3b4b5b6bKOeI-1b2b3b4b5b6b7bTEeO-1b2b3b4b5dU-1b2b3eO-1b2b3dRA-1b2b3b4dE-1b2b3b4dI-",
  "1b2b3b4b5b6b7dO-1b2b3b4b5b6dU-1b2b3b4b5b6eSA-1b2b3b4b5b6b7b8dE-1b2b3b4b5dI-1b2b3b4b5b6dO-1b2b3",
  "b4b5b6b7dU-1b2b3b4b5b6b7b8eTA-1b2b3b4dE-1b2b3b4b5b6b7b8b9dI-1b2b3b4b5b6b7dO-1b2b3b4b5b6bRAeU-1",
  "b2b3b4bTOfU-1b2b3b4b5dWA-1b2b3b4b5dE-1b2b3b4dI-1b2b3b4b5dO-1b2b3b4b5b6b7eYA-1b2b3b4b5bYOeO-1b2",
  "b3b4b5b6dU-1b2b3b4uRBbMITIAN CONJUGATE MATRIXyXAGRAM FOR ABUNDANCEiFTER COMPLETIONpPPROACHiBEF",
  "ORE COMPLETIONqITING THROUGHnREAKTHROUGHmCOMING TO MEETmNFLICTfTEMPLATIONnDARKENING OF THE LIG",
  "HTvECREASEgLIVERANCEjVELOPMENTkIFFICULTY AT THE BEGINNINGzSPERSIONjURATIONiENTHUSIASMkFELLOWSH",
  "IPjOLLOWINGjGATHERING TOGETHERrRACEdEAT POSSESSIONiWEReREPONDERANCEnTAMINGmHOLDING TOGETHERqIN",
  "CREASEgFLUENCEhNER TRUTHiOCENCEjLIMITATIONkMODESTYfUTH CORNERSnOBSTRUCTIONkPPOSITIONhRESSIONkP",
  "EACEeROGRESShUSHING UPWARDoRETREATeURNeVOLUTIONkSMALL PREPONDERANCEnTAMINGlPLITTING APARToTAND",
  "STILLkTHE ABYSMAL WATERmRMYcOUSING THUNDERqCAULDRONhLINGING FIREmREATIVE HEAVENpFAMILYgGENTLE ",
  "WINDlJOYOUS LAKElKEEPING STILL MOUNTAINwMARRYING MAIDENpRECEPTIVE EARTHpWANDERERhELLhREADINGiW",
  "AITINGgORK ON THE DECAYEDtYOUTHFUL FOLLY+aIBISCUSgGH BRIGHTNESS SYMBOLrOCTET PRESETmVOLTAGE SI",
  "GNn-HEELED SHOElSPEED TRAINa WITH BULLET NOSE+fKING BOOTjNDU TEMPLEkPPOPOTAMUSkRAGANA DIGRAPH ",
  "YORImITERATION MARKoLETTER AaRCHAIC WUcYEkBAbEbIbObUcDAbEbIbObUcEbGAbEbIbObUcHAbEbIbObUcIbKAbE",
  "bIbObUcMAbEbIbObUcNaAbEbIbObUcObPAbEbIbObUcRAbEbIbObUcSAbEbIbMALL AbEbIbKAbEcObTUcUbWAbEbIbOcY",
  "AbObUhObUcTAbEbIbObUcUbVUcWAbEbIbOcYAbObUcZAbEbIbObUjVOICED ITERATION MARK+cSTORIC SITEmOCHOdL",
  "EbLOW QUILT SQUARE ORNAMENTa IN BLACK SQUARE+qMOTHETICiNEY POTeBEEgOKcPbRIZONTAL BARcLACK HEXA",
  "GONhOCTAGONnELLIPSISiLINE EXTENSIONoMALE WITH STROKE SIGNvONE EIGHTH BLOCK-1358e2b3b4b5b6b7sSC",
  "AN LINE-1b3b7b9lTAB KEYeULATIONa SETdWITH JUSTIFICATION+cRAFFIC LIGHTvSEa FACEeRACINGkSPITALgT",
  " BEVERAGEiDOGdPEPPERgSPRINGSiELdURGLASSa WITH FLOWING SANDySEa BUILDINGaSjWITH GARDENqRYVNIA S",
  "IGNlTaJbScUGGING FACEkNDRED POINTS SYMBOLtSHED FACEjTcYGIEAePHENa BULLETgWITH DIAERESISp-MINUS",
  "gATION POINToODIASTOLEkSTERESIS SYMBOL"]

end SchemaPress.Text.CharacterName
